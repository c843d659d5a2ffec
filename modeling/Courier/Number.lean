import Courier.Number.Shortest

/-!
# Numbers

A setting is an integer of any size or a floating-point number. The two kinds compare by value, and
a NaN is unordered with everything, itself included; they differ in their text.
-/

namespace Courier

/-- An integer or a floating-point number. -/
inductive Number where
  | integer (value : Int)
  | float (value : Binary64)
  deriving DecidableEq, Repr, Inhabited

namespace Number

/-- Where a number lies among the extended reals: `dyadic m e` is `m * 2 ^ e`. -/
inductive Place where
  | belowAll
  | dyadic (mantissa : Int) (exponent : Int)
  | aboveAll
  deriving DecidableEq, Repr

/-- The place of a number; a NaN has none. -/
def place? : Number → Option Place
  | integer n => some (.dyadic n 0)
  | float .nan => none
  | float (.infinite negative) => some (if negative then .belowAll else .aboveAll)
  | float (.finite negative m e) => some (.dyadic (if negative then -(m : Int) else m) e)

/-- The mantissas of two dyadic numbers brought to one exponent. -/
def align (m₁ e₁ m₂ e₂ : Int) : Int × Int :=
  let e := min e₁ e₂
  (m₁ * Int.pow 2 (e₁ - e).toNat, m₂ * Int.pow 2 (e₂ - e).toNat)

/-- The order of two places. -/
def Place.order : Place → Place → Ordering
  | .belowAll, .belowAll => .eq
  | .belowAll, _ => .lt
  | _, .belowAll => .gt
  | .aboveAll, .aboveAll => .eq
  | .aboveAll, _ => .gt
  | _, .aboveAll => .lt
  | .dyadic m₁ e₁, .dyadic m₂ e₂ =>
    let (a, b) := align m₁ e₁ m₂ e₂
    compare a b

/-- The order of two numbers by value; nothing when one of them is a NaN. -/
def order? (x y : Number) : Option Ordering :=
  match x.place?, y.place? with
  | some p, some q => some (p.order q)
  | _, _ => none

/-- Whether `x < y`; false when one of them is a NaN. -/
def less (x y : Number) : Bool := x.order? y == some .lt

/-- Whether `x ≤ y`; false when one of them is a NaN. -/
def atMost (x y : Number) : Bool := x.order? y == some .lt || x.order? y == some .eq

/-- Whether `x` and `y` have the same value; a NaN equals nothing. -/
def same (x y : Number) : Bool := x.order? y == some .eq

/-- The greatest integer that is not above the number; nothing for a NaN or an infinity. -/
def floor? : Number → Option Int
  | integer n => some n
  | float (.finite negative m e) =>
    let signed : Int := if negative then -(m : Int) else m
    some (if 0 ≤ e then signed * Int.pow 2 e.toNat else signed.fdiv (Int.pow 2 (-e).toNat))
  | float _ => none

/-- The least integer that is not below the number; nothing for a NaN or an infinity. -/
def ceiling? : Number → Option Int
  | integer n => some n
  | float (.finite negative m e) => (floor? (float (.finite (!negative) m e))).map (- ·)
  | float _ => none

/-- The integer part of the number, towards zero; nothing for a NaN or an infinity. -/
def truncate? (x : Number) : Option Int :=
  if x.less (integer 0) then x.ceiling? else x.floor?

/-- The text of a number: the digits of an integer, or the shortest text of a float. -/
def text : Number → String
  | integer n => toString n
  | float x => String.ofList x.text

instance : OfNat Number n := ⟨integer n⟩

instance : ToString Number := ⟨text⟩

end Number

end Courier
