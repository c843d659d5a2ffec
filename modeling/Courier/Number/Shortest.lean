import Courier.Number.Binary64

/-!
# The shortest decimal text of a floating-point number

The digits of a finite number are the fewest that read back as it: for one digit, two digits and so
on up to seventeen, the two neighbours of the number on the grid of decimals with that many digits
are tested against the interval of reals that round to the number, and the first grid with a hit
wins. Of two hits the nearer one is taken, and of two equally near the even one.

The text is positional when the decimal exponent is from `-4` to `15`, always with a digit after the
point; otherwise it has an exponent with a sign and at least two digits.
-/

namespace Courier.Binary64

/-- A positive decimal `0.d₁d₂… * 10 ^ point`, as the number `d₁d₂…` its digits form. -/
structure Decimal where
  digits : Nat
  point : Int
  deriving DecidableEq, Repr

/-- The least `p` with `num / den < 10 ^ p`, for a ratio of at least one. -/
def pointAbove (num den : Nat) : Int := (Nat.toDigits 10 (num / den)).length

/-- The least `p` with `num / den < 10 ^ p`, for a positive ratio below one; `fuel` bounds the
    number of leading zeros. -/
def pointBelow (num den : Nat) : Nat → Int
  | 0 => 0
  | fuel + 1 => if den ≤ 10 * num then 0 else pointBelow (10 * num) den fuel - 1

/-- The point of a positive ratio: the least `p` with `num / den < 10 ^ p`. -/
def point (num den : Nat) : Int :=
  if den ≤ num then pointAbove num den else pointBelow num den 400

/-- A finite number with the interval of reals that round to it, all in quarters of a unit of its
    last place: the number is `4 * m`, and its neighbours lie half a unit away, or a quarter below a
    power of two. The ends belong to the interval when the mantissa is even. -/
structure Rounding where
  value : Nat
  low : Nat
  high : Nat
  closed : Bool

/-- The interval of reals that round to `m * 2 ^ e`. -/
def rounding (m : Nat) (e : Int) : Rounding where
  value := 4 * m
  low := if m = Nat.pow 2 52 ∧ minExponent < e then 4 * m - 1 else 4 * m - 2
  high := 4 * m + 2
  closed := m % 2 = 0

/-- The neighbour of the number on the grid whose points are `step` apart when a quarter is `unit`,
    if one of the two lies in the interval. -/
def Rounding.onGrid? (r : Rounding) (unit step : Nat) : Option Nat :=
  let below := r.value * unit / step
  let above := below + 1
  let belowFits := if r.closed then r.low * unit ≤ below * step else r.low * unit < below * step
  let aboveFits := if r.closed then above * step ≤ r.high * unit else above * step < r.high * unit
  let toBelow := r.value * unit - below * step
  let toAbove := above * step - r.value * unit
  if belowFits ∧ aboveFits then
    if toBelow < toAbove then some below
    else if toAbove < toBelow then some above
    else if below % 2 = 0 then some below else some above
  else if belowFits then some below
  else if aboveFits then some above
  else none

/-- Searches the grids of `17 - fuel` digits and more. -/
def shortestFrom (r : Rounding) (num den : Nat) (p : Int) : Nat → Decimal
  | 0 => ⟨num * Nat.pow 10 (17 - p).toNat / (den * Nat.pow 10 (p - 17).toNat), p⟩
  | fuel + 1 =>
    let count : Int := 17 - fuel
    match r.onGrid? (num * Nat.pow 10 (count - p).toNat) (den * Nat.pow 10 (p - count).toNat) with
    | some digits => ⟨digits * Nat.pow 10 fuel, p⟩
    | none => shortestFrom r num den p fuel

/-- Seventeen digits, of which the trailing zeros can be left out, that read back as the positive
    number `m * 2 ^ e`. A neighbour on a grid can be the next power of ten, so the digits can form
    `10 ^ 17`. -/
def shortest (m : Nat) (e : Int) : Decimal :=
  let num := Nat.pow 2 (e - 2).toNat
  let den := Nat.pow 2 (2 - e).toNat
  shortestFrom (rounding m e) num den (point (4 * m * num) den) 17

/-- The digits of a number that are not trailing zeros. -/
def significant (n : Nat) : List Char :=
  ((Nat.toDigits 10 n).reverse.dropWhile (· == '0')).reverse

/-- An exponent: `e`, a sign and at least two digits. -/
def exponentText (e : Int) : List Char :=
  let digits := Nat.toDigits 10 e.natAbs
  'e' :: (if e < 0 then '-' else '+') :: (if digits.length < 2 then '0' :: digits else digits)

/-- Lays out the digits of `0.d₁d₂… * 10 ^ p`. -/
def layout (digits : List Char) (p : Int) : List Char :=
  if -4 < p ∧ p ≤ 16 then
    if p ≤ 0 then '0' :: '.' :: List.replicate (-p).toNat '0' ++ digits
    else if digits.length ≤ p.toNat then
      digits ++ List.replicate (p.toNat - digits.length) '0' ++ ['.', '0']
    else digits.take p.toNat ++ '.' :: digits.drop p.toNat
  else
    match digits with
    | [] => exponentText (p - 1)
    | [d] => d :: exponentText (p - 1)
    | d :: rest => d :: '.' :: rest ++ exponentText (p - 1)

/-- The text of a positive number `m * 2 ^ e`. -/
def positiveText (m : Nat) (e : Int) : List Char :=
  let d := shortest m e
  let p := if Nat.pow 10 17 ≤ d.digits then d.point + 1 else d.point
  layout (significant d.digits) p

/-- The text of a floating-point number. -/
def text : Binary64 → List Char
  | nan => ['n', 'a', 'n']
  | infinite negative => (if negative then ['-'] else []) ++ ['i', 'n', 'f']
  | finite negative m e =>
    (if negative then ['-'] else []) ++ (if m = 0 then ['0', '.', '0'] else positiveText m e)

end Courier.Binary64
