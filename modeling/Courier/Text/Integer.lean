import Courier.Text.DigitTable

/-!
# Integers in texts

An integer is written with decimal digits of any script, an optional sign, single underscores
between digits, and white space around it. It has no more than 4300 digits.
-/

namespace Courier.Text

/-- The value of a decimal digit of any script. -/
def digitValue? (c : Char) : Option Nat :=
  if c.isDigit then some (c.toNat - '0'.toNat)
  else zeroDigits.findSome? fun first =>
    if first ≤ c.toNat ∧ c.toNat < first + 10 then some (c.toNat - first) else none

/-- Whether a character is white space. -/
def isBlank (c : Char) : Bool := blanks.contains c.toNat

/-- The values of digits, of which two may have an underscore between them. -/
def digits? : List Char → Option (List Nat)
  | [] => none
  | [c] => (digitValue? c).map ([·])
  | c :: '_' :: rest => (digitValue? c).bind fun d => (digits? rest).map (d :: ·)
  | c :: rest => (digitValue? c).bind fun d => (digits? rest).map (d :: ·)

/-- The text without the white space around it. -/
def strip (cs : List Char) : List Char :=
  ((cs.dropWhile isBlank).reverse.dropWhile isBlank).reverse

/-- The value of an unsigned integer of at most 4300 digits. -/
def natural? (cs : List Char) : Option Nat :=
  (digits? cs).bind fun ds =>
    if ds.length ≤ 4300 then some (ds.foldl (fun value d => 10 * value + d) 0) else none

/-- The value of an integer. -/
def integer? (cs : List Char) : Option Int :=
  match strip cs with
  | '-' :: rest => (natural? rest).map fun n => -(n : Int)
  | '+' :: rest => (natural? rest).map fun n => (n : Int)
  | rest => (natural? rest).map fun n => (n : Int)

end Courier.Text
