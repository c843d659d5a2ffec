/-!
# Binary floating-point numbers of 64 bits

Timeouts, intervals and budgets may be given as floating-point numbers, and their text has to be
exact, so the numbers are kept as data and not as machine words. A finite number is
`± mantissa * 2 ^ exponent`; every number the readers of this module give is canonical: its mantissa
is below `2 ^ 53`, its exponent is between `-1074` and `971`, and the mantissa is at least `2 ^ 52`
unless the exponent is `-1074`.

`ofRatio` rounds an exact quotient to the nearest number, and `read?` reads a decimal literal
through it.
-/

namespace Courier

/-- A binary floating-point number of 64 bits: `finite negative m e` is `m * 2 ^ e`, negated when
    `negative` is set. -/
inductive Binary64 where
  | nan
  | infinite (negative : Bool)
  | finite (negative : Bool) (mantissa : Nat) (exponent : Int)
  deriving DecidableEq, Repr, Inhabited

namespace Binary64

/-- Whether a number has the sign of a negative one. -/
def isNegative : Binary64 → Bool
  | nan => false
  | infinite negative | finite negative _ _ => negative

/-- The least exponent of a finite number. -/
def minExponent : Int := -1074

/-- The greatest exponent of a finite number. -/
def maxExponent : Int := 971

/-- The quotient of two natural numbers rounded to the nearest one, a half to the even one. -/
def divRoundEven (num den : Nat) : Nat :=
  let quotient := num / den
  let rest := 2 * (num % den)
  if rest < den then quotient
  else if den < rest then quotient + 1
  else if quotient % 2 = 0 then quotient else quotient + 1

/-- The ratio `num / den` divided by `2 ^ e`, again as a ratio. -/
def scaleRatio (num den : Nat) (e : Int) : Nat × Nat :=
  if 0 ≤ e then (num, den * Nat.pow 2 e.toNat) else (num * Nat.pow 2 (-e).toNat, den)

/-- A mantissa of at most `2 ^ 53` with its exponent, as a number; too large a one is infinite. -/
def ofMantissa (negative : Bool) (mantissa : Nat) (exponent : Int) : Binary64 :=
  let (m, e) :=
    if mantissa = Nat.pow 2 53 then (Nat.pow 2 52, exponent + 1) else (mantissa, exponent)
  if maxExponent < e then infinite negative else finite negative m e

/-- The number nearest to the ratio `num / den`, of two equally near ones the even one. -/
def ofRatio (negative : Bool) (num den : Nat) : Binary64 :=
  if num = 0 then finite negative 0 minExponent
  else
    let e := max minExponent ((Nat.log2 num : Int) - (Nat.log2 den : Int) - 53)
    let (n, d) := scaleRatio num den e
    if n / d < Nat.pow 2 53 then ofMantissa negative (divRoundEven n d) e
    else
      let (n, d) := scaleRatio num den (e + 1)
      ofMantissa negative (divRoundEven n d) (e + 1)

/-- The number nearest to `digits * 10 ^ exponent`. Beyond 400 decimal places on either side the
    answer is infinite or zero, so no larger power is computed. -/
def ofDecimal (negative : Bool) (digits : Nat) (exponent : Int) : Binary64 :=
  let places : Int := exponent + (Nat.toDigits 10 digits).length
  if digits = 0 ∨ places < -400 then finite negative 0 minExponent
  else if 400 < places then infinite negative
  else if 0 ≤ exponent then ofRatio negative (digits * Nat.pow 10 exponent.toNat) 1
  else ofRatio negative digits (Nat.pow 10 (-exponent).toNat)

/-- The value of a run of decimal digits, or nothing when it is empty or holds anything else. -/
def digitsValue? (cs : List Char) : Option Nat :=
  if cs.isEmpty ∨ cs.any (fun c => !c.isDigit) then none
  else some (cs.foldl (fun value c => 10 * value + (c.toNat - '0'.toNat)) 0)

/-- Reads an optional sign. -/
def readSign : List Char → Bool × List Char
  | '-' :: rest => (true, rest)
  | '+' :: rest => (false, rest)
  | rest => (false, rest)

/-- Reads the exponent that may follow the digits of a literal. -/
def readExponent? : List Char → Option Int
  | [] => some 0
  | c :: rest =>
    if c = 'e' ∨ c = 'E' then
      let (negative, digits) := readSign rest
      (digitsValue? digits).map fun n => if negative then -(n : Int) else n
    else none

/-- Reads a decimal literal: a sign, digits with at most one point among them, and an exponent; or
    one of the words `nan`, `inf` and `infinity`. -/
def read? (cs : List Char) : Option Binary64 :=
  let (negative, rest) := readSign cs
  if rest = ['n', 'a', 'n'] then some nan
  else if rest = ['i', 'n', 'f'] ∨ rest = ['i', 'n', 'f', 'i', 'n', 'i', 't', 'y'] then
    some (infinite negative)
  else
    let whole := rest.takeWhile Char.isDigit
    let rest := rest.dropWhile Char.isDigit
    let (fraction, rest) :=
      match rest with
      | '.' :: rest => (rest.takeWhile Char.isDigit, rest.dropWhile Char.isDigit)
      | rest => ([], rest)
    match digitsValue? (whole ++ fraction), readExponent? rest with
    | some digits, some e => some (ofDecimal negative digits (e - fraction.length))
    | _, _ => none

end Binary64

end Courier
