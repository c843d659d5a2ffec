import Courier.Log.Display
import Courier.Number.Places

/-!
# Placeholders

A placeholder of a message template asks for one argument in a notation, which a letter names, with
flags, a least width and a precision. `Placeholder.convert` is the text of an argument for it.

The letters `s`, `r` and `a` show any value: as in a message, as inside another value, and the
latter in ASCII; the precision cuts their text. `d`, `i` and `u` take the integer part of a number,
`o`, `x` and `X` an integer, and `e`, `f` and `g` with their capitals a floating-point number. `c`
is a character or its code. Numbers are padded with zeros on request, everything with spaces.
-/

namespace Courier.Log

/-- Why an argument does not fit its placeholder, or the arguments a template. -/
inductive Misfit where
  | tooManyArguments
  | tooFewArguments
  /-- A key is asked for and the arguments have none. -/
  | noKeys
  /-- A key is asked for and the arguments have positions, named by this word. -/
  | onlyPositions (word : String)
  /-- A width or precision that an argument should give is no integer. -/
  | noCount
  | notReal (letter : Char) (kind : String)
  | notInteger (letter : Char) (kind : String)
  | notFloat (kind : String)
  | notCharacter
  deriving DecidableEq, Repr

/-- Why a template or a number in it cannot be read. -/
inductive Malformed where
  /-- The template ends within a placeholder. -/
  | incomplete
  /-- The template ends within the key of a placeholder. -/
  | incompleteKey
  | widthTooBig
  | precisionTooBig
  | unsupported (letter : Char) (position : Nat)
  | nanToInteger
  deriving DecidableEq, Repr

/-- What a number is too large for. -/
inductive Beyond where
  | integer
  | float
  | width
  | precision
  | character
  deriving DecidableEq, Repr

/-- Why arguments do not fill a template. -/
inductive TemplateError where
  | misfit (reason : Misfit)
  | malformed (reason : Malformed)
  | beyond (limit : Beyond)
  | missingKey (key : String)
  deriving DecidableEq, Repr

/-- The wording of a misfit. -/
def Misfit.message : Misfit → String
  | tooManyArguments => "not all arguments converted during string formatting"
  | tooFewArguments => "not enough arguments for format string"
  | noKeys => "format requires a mapping"
  | onlyPositions word => s!"{word} indices must be integers or slices, not str"
  | noCount => "* wants int"
  | notReal letter kind => s!"%{letter} format: a real number is required, not {kind}"
  | notInteger letter kind => s!"%{letter} format: an integer is required, not {kind}"
  | notFloat kind => s!"must be real number, not {kind}"
  | notCharacter => "%c requires int or char"

/-- The wording of what cannot be read; a letter that is not printable ASCII is not shown. -/
def Malformed.message : Malformed → String
  | incomplete => "incomplete format"
  | incompleteKey => "incomplete format key"
  | widthTooBig => "width too big"
  | precisionTooBig => "precision too big"
  | unsupported letter position =>
    let shown := if 31 ≤ letter.toNat ∧ letter.toNat ≤ 126 then letter else '?'
    let code := String.ofList (Nat.toDigits 16 letter.toNat)
    s!"unsupported format character '{shown}' (0x{code}) at index {position}"
  | nanToInteger => "cannot convert float NaN to integer"

/-- The wording for a number that is too large. -/
def Beyond.message : Beyond → String
  | integer => "cannot convert float infinity to integer"
  | float => "int too large to convert to float"
  | width => "Python int too large to convert to C ssize_t"
  | precision => "Python int too large to convert to C int"
  | character => "%c arg not in range(0x110000)"

/-- The wording of an error. -/
def TemplateError.message : TemplateError → String
  | misfit reason => reason.message
  | malformed reason => reason.message
  | beyond limit => limit.message
  | missingKey key => Text.quotedString key

/-- A request for an argument, without its letter. -/
structure Placeholder where
  leftAligned : Bool
  signed : Bool
  spaced : Bool
  alternate : Bool
  zeroFilled : Bool
  width : Nat
  precision : Option Nat
  deriving DecidableEq, Repr

namespace Placeholder

/-- A placeholder that asks for nothing but an argument. -/
def simple : Placeholder := ⟨false, false, false, false, false, 0, none⟩

/-- The placeholder with the flag a character stands for, if it is one. -/
def withFlag? (p : Placeholder) : Char → Option Placeholder
  | '-' => some { p with leftAligned := true }
  | '+' => some { p with signed := true }
  | ' ' => some { p with spaced := true }
  | '#' => some { p with alternate := true }
  | '0' => some { p with zeroFilled := true }
  | _ => none

/-- Spaces around a text up to the width. -/
def pad (p : Placeholder) (text : List Char) : List Char :=
  let spaces := List.replicate (p.width - text.length) ' '
  if p.leftAligned then text ++ spaces else spaces ++ text

/-- A shown value, cut and padded. -/
def layText (p : Placeholder) (text : String) : List Char :=
  p.pad (match p.precision with
    | some count => text.toList.take count
    | none => text.toList)

/-- What stands for the sign of a number. -/
def signText (p : Placeholder) (negative : Bool) : List Char :=
  if negative then ['-'] else if p.signed then ['+'] else if p.spaced then [' '] else []

/-- A number from its sign, the mark of its base and its digits, padded. -/
def layNumber (p : Placeholder) (negative : Bool) (mark digits : List Char) : List Char :=
  let front := p.signText negative ++ mark
  if p.zeroFilled && !p.leftAligned then
    front ++ List.replicate (p.width - front.length - digits.length) '0' ++ digits
  else p.pad (front ++ digits)

/-- An integer in a base, with as many digits as the precision asks for. -/
def layInteger (p : Placeholder) (base : Nat) (mark : List Char) (n : Int) : List Char :=
  let digits := Nat.toDigits base n.natAbs
  let digits := List.replicate (p.precision.getD 0 - digits.length) '0' ++ digits
  p.layNumber (n < 0) (if p.alternate then mark else []) digits

/-- A floating-point number in the notation of a lower case letter. -/
def floatDigits (p : Placeholder) (letter : Char) : Binary64 → List Char
  | .nan => ['n', 'a', 'n']
  | .infinite _ => ['i', 'n', 'f']
  | .finite _ m e =>
    let precision := p.precision.getD 6
    if letter = 'e' then Binary64.scientificText p.alternate precision m e
    else if letter = 'f' then Binary64.fixedText p.alternate precision m e
    else Binary64.generalText p.alternate precision m e

/-- A floating-point number in the notation of a letter; a capital one capitalises it. -/
def layFloat (p : Placeholder) (letter : Char) (x : Binary64) : List Char :=
  let digits := p.floatDigits letter.toLower x
  p.layNumber x.isNegative [] (if letter.isUpper then digits.map Char.toUpper else digits)

/-- The integer part of an argument. -/
def integerPart (letter : Char) (argument : Json) : Except TemplateError Int :=
  match argument.numeric? with
  | none => .error (.misfit (.notReal letter (kindWord argument)))
  | some n =>
    match n.truncate?, n with
    | some value, _ => .ok value
    | none, .float (.infinite _) => .error (.beyond .integer)
    | none, _ => .error (.malformed .nanToInteger)

/-- An argument that is an integer. -/
def integer? (argument : Json) : Option Int :=
  match argument.numeric? with
  | some (.integer n) => some n
  | _ => none

/-- The integer an argument is. -/
def wholeInteger (letter : Char) (argument : Json) : Except TemplateError Int :=
  match integer? argument with
  | some n => .ok n
  | none => .error (.misfit (.notInteger letter (kindWord argument)))

/-- The floating-point number nearest to an argument. -/
def nearestFloat (argument : Json) : Except TemplateError Binary64 :=
  match argument.numeric? with
  | none => .error (.misfit (.notFloat (kindWord argument)))
  | some (.float x) => .ok x
  | some (.integer n) =>
    match Binary64.ofRatio (n < 0) n.natAbs 1 with
    | .infinite _ => .error (.beyond .float)
    | x => .ok x

/-- The character an argument is, or is the code of. -/
def character (argument : Json) : Except TemplateError Char :=
  match argument, integer? argument with
  | .string s, _ =>
    match s.toList with
    | [c] => .ok c
    | _ => .error (.misfit .notCharacter)
  | _, some n =>
    if n < 0 ∨ 0x110000 ≤ n then .error (.beyond .character)
    else .ok (Char.ofNat n.toNat)
  | _, none => .error (.misfit .notCharacter)

/-- The text of an argument for a placeholder whose letter stands at a position. -/
def convert (p : Placeholder) (letter : Char) (position : Nat) (argument : Json) :
    Except TemplateError (List Char) :=
  match letter with
  | 's' => .ok (p.layText (shown argument))
  | 'r' => .ok (p.layText (spelled argument))
  | 'a' => .ok (p.layText (String.ofList (Text.inAscii (spelled argument).toList)))
  | 'c' => (character argument).map fun c => p.pad [c]
  | 'd' | 'i' | 'u' => (integerPart letter argument).map (p.layInteger 10 [])
  | 'o' => (wholeInteger letter argument).map (p.layInteger 8 ['0', 'o'])
  | 'x' => (wholeInteger letter argument).map (p.layInteger 16 ['0', 'x'])
  | 'X' => (wholeInteger letter argument).map fun n =>
    (p.layInteger 16 ['0', 'x'] n).map Char.toUpper
  | 'e' | 'E' | 'f' | 'F' | 'g' | 'G' => (nearestFloat argument).map (p.layFloat letter)
  | _ => .error (.malformed (.unsupported letter position))

end Placeholder

end Courier.Log
