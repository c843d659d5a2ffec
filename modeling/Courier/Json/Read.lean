import Courier.Json.Basic
import Courier.Text.Hex

/-!
# Reading JSON

`Json.read?` reads a text that holds one value and nothing else but white space around it. A number
without a fraction and an exponent is an integer; the words for a NaN and the infinities are read
too, as nothing else. A control character inside a string, a surrogate without its partner and a
zero in front of a number are refused.
-/

namespace Courier.Json

/-- Whether a character is white space between tokens. -/
def isSpace (c : Char) : Bool := c == ' ' || c == '\n' || c == '\t' || c == '\r'

/-- The text without the white space in front of it. -/
def skipSpace (cs : List Char) : List Char := cs.dropWhile isSpace

/-- The value of four hexadecimal digits. -/
def unit? (a b c d : Char) : Option Nat := do
  let a ← Text.hexValue? a
  let b ← Text.hexValue? b
  let c ← Text.hexValue? c
  let d ← Text.hexValue? d
  return ((a * 16 + b) * 16 + c) * 16 + d

/-- The character that a letter after a backslash stands for. -/
def escaped? : Char → Option Char
  | '"' => some '"'
  | '\\' => some '\\'
  | '/' => some '/'
  | 'b' => some '\x08'
  | 'f' => some '\x0c'
  | 'n' => some '\n'
  | 'r' => some '\r'
  | 't' => some '\t'
  | _ => none

/-- What a code unit adds to a string after an optional high surrogate: a character, or a high
    surrogate to be completed. -/
def addUnit? (pending : Option Nat) (n : Nat) : Option (Option Char × Option Nat) :=
  match pending with
  | some high =>
    if 0xdc00 ≤ n ∧ n < 0xe000 then
      some (some (Char.ofNat (0x10000 + (high - 0xd800) * 0x400 + (n - 0xdc00))), none)
    else none
  | none =>
    if 0xd800 ≤ n ∧ n < 0xdc00 then some (none, some n)
    else if 0xdc00 ≤ n ∧ n < 0xe000 then none
    else some (some (Char.ofNat n), none)

/-- Reads the rest of a string after its opening quote, given the characters so far, the last one
    first, and a high surrogate that waits for its partner. -/
def readString (before : List Char) (pending : Option Nat) :
    List Char → Option (String × List Char)
  | [] => none
  | '\\' :: 'u' :: a :: b :: c :: d :: rest =>
    match (unit? a b c d).bind (addUnit? pending) with
    | some (character, pending) => readString (character.toList ++ before) pending rest
    | none => none
  | '\\' :: c :: rest =>
    match pending, escaped? c with
    | none, some c => readString (c :: before) none rest
    | _, _ => none
  | c :: rest =>
    if pending.isSome then none
    else if c = '"' then some (String.ofList before.reverse, rest)
    else if c.toNat < 0x20 then none
    else readString (c :: before) none rest

/-- Whether a character can stand in a number. -/
def isNumberChar (c : Char) : Bool :=
  c.isDigit || c == '-' || c == '+' || c == '.' || c == 'e' || c == 'E'

/-- Whether digits are the whole part of a number: there are some, and a zero in front stands
    alone. -/
def isWhole (digits : List Char) : Bool :=
  digits == ['0'] || (!digits.isEmpty && digits.head? != some '0')

/-- What comes after the fraction that a number may have; a point has a digit after it. -/
def afterFraction? : List Char → Option (List Char)
  | '.' :: rest =>
    if (rest.takeWhile Char.isDigit).isEmpty then none else some (rest.dropWhile Char.isDigit)
  | rest => some rest

/-- Whether a text is a number without a sign: a whole part, a fraction and an exponent, of which
    the last two may be missing. -/
def isNumeral (cs : List Char) : Bool :=
  isWhole (cs.takeWhile Char.isDigit) &&
    ((afterFraction? (cs.dropWhile Char.isDigit)).bind Binary64.readExponent?).isSome

/-- The number of a literal. -/
def number? (cs : List Char) : Option Number :=
  let unsigned := if cs.head? = some '-' then cs.drop 1 else cs
  if isNumeral unsigned then
    match Binary64.digitsValue? unsigned with
    | some n => some (.integer (if cs.head? = some '-' then -(n : Int) else n))
    | none => (Binary64.read? cs).map .float
  else none

/-- Reads a number or a word. -/
def readScalar (cs : List Char) : Option (Json × List Char) :=
  match cs with
  | 'n' :: 'u' :: 'l' :: 'l' :: rest => some (null, rest)
  | 't' :: 'r' :: 'u' :: 'e' :: rest => some (bool true, rest)
  | 'f' :: 'a' :: 'l' :: 's' :: 'e' :: rest => some (bool false, rest)
  | 'N' :: 'a' :: 'N' :: rest => some (number (.float .nan), rest)
  | 'I' :: 'n' :: 'f' :: 'i' :: 'n' :: 'i' :: 't' :: 'y' :: rest =>
    some (number (.float (.infinite false)), rest)
  | '-' :: 'I' :: 'n' :: 'f' :: 'i' :: 'n' :: 'i' :: 't' :: 'y' :: rest =>
    some (number (.float (.infinite true)), rest)
  | cs =>
    (number? (cs.takeWhile isNumberChar)).map fun n => (number n, cs.dropWhile isNumberChar)

mutual

/-- Reads a value; `fuel` bounds the number of tokens. -/
def readValue : Nat → List Char → Option (Json × List Char)
  | 0, _ => none
  | fuel + 1, cs =>
    match skipSpace cs with
    | '"' :: rest => (readString [] none rest).map fun (s, rest) => (string s, rest)
    | '[' :: rest =>
      match skipSpace rest with
      | ']' :: rest => some (array [], rest)
      | rest => (readItems fuel rest).map fun (items, rest) => (array items, rest)
    | '\x7b' :: rest =>
      match skipSpace rest with
      | '\x7d' :: rest => some (object [], rest)
      | rest => (readMembers fuel rest).map fun (members, rest) => (object members, rest)
    | rest => readScalar rest

/-- Reads the items of an array and the closing bracket. -/
def readItems : Nat → List Char → Option (List Json × List Char)
  | 0, _ => none
  | fuel + 1, cs =>
    match readValue fuel cs with
    | none => none
    | some (item, rest) =>
      match skipSpace rest with
      | ']' :: rest => some ([item], rest)
      | ',' :: rest => (readItems fuel rest).map fun (items, rest) => (item :: items, rest)
      | _ => none

/-- Reads the members of an object and the closing brace. -/
def readMembers : Nat → List Char → Option (List (String × Json) × List Char)
  | 0, _ => none
  | fuel + 1, cs =>
    match skipSpace cs with
    | '"' :: rest =>
      match readString [] none rest with
      | none => none
      | some (key, rest) =>
        match skipSpace rest with
        | ':' :: rest =>
          match readValue fuel rest with
          | none => none
          | some (value, rest) =>
            match skipSpace rest with
            | '\x7d' :: rest => some ([(key, value)], rest)
            | ',' :: rest =>
              (readMembers fuel rest).map fun (members, rest) => ((key, value) :: members, rest)
            | _ => none
        | _ => none
    | _ => none

end

/-- The value of a text. -/
def read? (cs : List Char) : Option Json :=
  match readValue (2 * cs.length + 2) cs with
  | some (value, rest) => if (skipSpace rest).isEmpty then some value else none
  | none => none

end Courier.Json
