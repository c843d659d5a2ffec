import Courier.Number.Shortest

/-!
# Floating-point numbers with a given number of places

A finite number is laid out with so many places after the point, in positional or in exponent
notation, or with so many significant digits in whichever of the two is at hand. The exact value is
rounded, and a half goes to the even neighbour. Signs are left to the caller.
-/

namespace Courier.Binary64

/-- The ratio a positive `m * 2 ^ e` is. -/
def ratio (m : Nat) (e : Int) : Nat × Nat := (m * Nat.pow 2 e.toNat, Nat.pow 2 (-e).toNat)

/-- The ratio `num / den` in units of `10 ^ (-places)`, rounded. -/
def roundPlaces (num den : Nat) (places : Int) : Nat :=
  divRoundEven (num * Nat.pow 10 places.toNat) (den * Nat.pow 10 (-places).toNat)

/-- Digits with a point before the last `places` of them. A point that nothing follows is left out,
    unless it is asked for. -/
def withPoint (pointed : Bool) (places : Nat) (digits : List Char) : List Char :=
  let whole := digits.take (digits.length - places)
  let fraction := digits.drop (digits.length - places)
  if fraction.isEmpty && !pointed then whole else whole ++ '.' :: fraction

/-- Positional notation with so many places. -/
def fixedText (pointed : Bool) (places m : Nat) (e : Int) : List Char :=
  let (num, den) := ratio m e
  let digits := Nat.toDigits 10 (roundPlaces num den places)
  withPoint pointed places (List.replicate (places + 1 - digits.length) '0' ++ digits)

/-- So many significant digits of a number and the exponent of the first one. -/
def leadingDigits (count m : Nat) (e : Int) : List Char × Int :=
  if m = 0 then (List.replicate count '0', 0)
  else
    let (num, den) := ratio m e
    let p := point num den
    let digits := Nat.toDigits 10 (roundPlaces num den (count - p))
    if count < digits.length then (digits.dropLast, p) else (digits, p - 1)

/-- Exponent notation with so many places. -/
def scientificText (pointed : Bool) (places m : Nat) (e : Int) : List Char :=
  let (digits, exponent) := leadingDigits (places + 1) m e
  withPoint pointed places digits ++ exponentText exponent

/-- Digits without the zeros at their end, of which the first `count` ones stay. -/
def withoutZeros (count : Nat) (digits : List Char) : List Char :=
  digits.take count ++ ((digits.drop count).reverse.dropWhile (· == '0')).reverse

/-- Notation with so many significant digits: with an exponent below `-4` or from the number of
    digits on, and positional otherwise. Zeros at the end of a fraction are left out unless the
    point is asked for. -/
def generalText (pointed : Bool) (count m : Nat) (e : Int) : List Char :=
  let count := max 1 count
  let (digits, exponent) := leadingDigits count m e
  let trim (whole : Nat) (digits : List Char) : List Char :=
    if pointed then digits else withoutZeros whole digits
  if exponent < -4 ∨ count ≤ exponent then
    let digits := trim 1 digits
    withPoint pointed (digits.length - 1) digits ++ exponentText exponent
  else
    let digits := trim (exponent + 1).toNat digits
    let places := (digits.length - 1 - exponent).toNat
    withPoint pointed places (List.replicate (places + 1 - digits.length) '0' ++ digits)

end Courier.Binary64
