import Courier.Number

/-!
# Comparing numbers

Budgets are numbers of either kind, and a call compares its counters with them. A number that has a
floor is below an integer exactly when its floor is, and one that has a ceiling is at most an
integer exactly when its ceiling is; the numbers without either are the infinities, which lie beyond
all integers, and the NaN.

Limits are numbers too, and settings are compared with them in either direction. The two directions
exclude each other, and one of them holds, unless one of the numbers is the NaN.
-/

namespace Courier.Number

theorem scale_zero (a : Int) : a * Int.pow 2 0 = a := Int.mul_one a

theorem align_integer (m e a : Int) :
    align m e a 0 =
      if 0 ≤ e then (m * Int.pow 2 e.toNat, a) else (m, a * Int.pow 2 (-e).toNat) := by
  dsimp only [align]
  split
  · rename_i nonneg
    have least : min e 0 = 0 := by omega
    rw [least, Int.sub_zero, Int.sub_zero, Int.toNat_zero, scale_zero]
  · rename_i negative
    have least : min e 0 = e := by omega
    rw [least, Int.sub_self, Int.zero_sub, Int.toNat_zero, scale_zero]

theorem order?_integer (n a : Int) : (integer n).order? (integer a) = some (compare n a) := by
  simp only [order?, place?, Place.order, align_integer]
  rw [if_pos (Int.le_refl 0), Int.toNat_zero, scale_zero]

/-- The order of a finite float and an integer is that of two integers, brought to one exponent. -/
theorem order?_finite (negative : Bool) (m : Nat) (e a : Int) :
    (float (.finite negative m e)).order? (integer a) =
      let signed : Int := if negative then -(m : Int) else m
      some (if 0 ≤ e then compare (signed * Int.pow 2 e.toNat) a
        else compare signed (a * Int.pow 2 (-e).toNat)) := by
  simp only [order?, place?, Place.order, align_integer]
  split <;> rfl

@[simp] theorem less_integer (n a : Int) : (integer n).less (integer a) = decide (n < a) := by
  simp only [less, order?_integer]
  rcases Int.lt_trichotomy n a with below | equal | above
  · simp [Int.compare_eq_lt.mpr below, below]
  · simp [equal]
  · simp [Int.compare_eq_gt.mpr above, Int.not_lt.mpr (Int.le_of_lt above)]

@[simp] theorem atMost_integer (n a : Int) : (integer n).atMost (integer a) = decide (n ≤ a) := by
  simp only [atMost, order?_integer]
  rcases Int.lt_trichotomy n a with below | equal | above
  · simp [Int.compare_eq_lt.mpr below, Int.le_of_lt below]
  · simp [equal]
  · simp [Int.compare_eq_gt.mpr above, Int.not_le.mpr above]

/-- The comparisons of a finite float with an integer. -/
theorem less_finite (negative : Bool) (m : Nat) (e a : Int) :
    (float (.finite negative m e)).less (integer a) =
      let signed : Int := if negative then -(m : Int) else m
      if 0 ≤ e then decide (signed * Int.pow 2 e.toNat < a)
      else decide (signed < a * Int.pow 2 (-e).toNat) := by
  have compared := less_integer
  simp only [less, order?_integer] at compared
  simp only [less, order?_finite]
  split <;> exact compared _ _

theorem atMost_finite (negative : Bool) (m : Nat) (e a : Int) :
    (float (.finite negative m e)).atMost (integer a) =
      let signed : Int := if negative then -(m : Int) else m
      if 0 ≤ e then decide (signed * Int.pow 2 e.toNat ≤ a)
      else decide (signed ≤ a * Int.pow 2 (-e).toNat) := by
  have compared := atMost_integer
  simp only [atMost, order?_integer] at compared
  simp only [atMost, order?_finite]
  split <;> exact compared _ _

/-- A number with a floor is below an integer exactly when its floor is. -/
theorem less_of_floor {x : Number} {floor : Int} (h : x.floor? = some floor) (a : Int) :
    x.less (integer a) = decide (floor < a) := by
  cases x with
  | integer n =>
    simp only [floor?, Option.some.injEq] at h
    rw [less_integer, h]
  | float x =>
    cases x with
    | nan => simp [floor?] at h
    | infinite negative => simp [floor?] at h
    | finite negative m e =>
      simp only [floor?, Option.some.injEq] at h
      subst h
      simp only [less_finite]
      by_cases scale : 0 ≤ e
      · simp only [scale, if_true]
      · simp only [scale, if_false]
        have power : (0 : Int) < Int.pow 2 (-e).toNat := Int.pow_pos (by decide)
        rw [Int.fdiv_eq_ediv_of_nonneg _ (Int.le_of_lt power)]
        exact decide_eq_decide.mpr (Int.ediv_lt_iff_lt_mul power).symm

/-- A number with a ceiling is at most an integer exactly when its ceiling is. -/
theorem atMost_of_ceiling {x : Number} {ceiling : Int} (h : x.ceiling? = some ceiling) (a : Int) :
    x.atMost (integer a) = decide (ceiling ≤ a) := by
  cases x with
  | integer n =>
    simp only [ceiling?, Option.some.injEq] at h
    rw [atMost_integer, h]
  | float x =>
    cases x with
    | nan => simp [ceiling?] at h
    | infinite negative => simp [ceiling?] at h
    | finite negative m e =>
      simp only [atMost_finite]
      have mirrored : (if (!negative) = true then -(m : Int) else m) =
          -(if negative = true then -(m : Int) else m) := by
        cases negative <;> simp
      simp only [ceiling?, floor?, mirrored, Option.map_some, Option.some.injEq] at h
      generalize (if negative = true then -(m : Int) else m) = signed at h ⊢
      subst h
      by_cases scale : 0 ≤ e
      · simp only [scale, if_true]
        rw [Int.neg_mul, Int.neg_neg]
      · simp only [scale, if_false]
        have power : (0 : Int) < Int.pow 2 (-e).toNat := Int.pow_pos (by decide)
        rw [Int.fdiv_eq_ediv_of_nonneg _ (Int.le_of_lt power)]
        have bound := Int.le_ediv_iff_mul_le (a := -a) (b := -signed) power
        rw [Int.neg_mul] at bound
        exact decide_eq_decide.mpr (by omega)

/-- A number without a floor that is below zero is below every integer. -/
theorem less_of_no_floor {x : Number} (h : x.floor? = none) (negative : x.less 0 = true) (a : Int) :
    x.less (integer a) = true := by
  cases x with
  | integer n => simp [floor?] at h
  | float x =>
    cases x with
    | nan => exact negative
    | finite => simp [floor?] at h
    | infinite sign =>
      cases sign with
      | true => rfl
      | false => exact absurd negative (by decide)

/-- A number without a ceiling that is below zero is at most every integer. -/
theorem atMost_of_no_ceiling {x : Number} (h : x.ceiling? = none) (negative : x.less 0 = true)
    (a : Int) : x.atMost (integer a) = true := by
  cases x with
  | integer n => simp [ceiling?] at h
  | float x =>
    cases x with
    | nan => exact absurd negative (by decide)
    | finite => simp [ceiling?, floor?] at h
    | infinite sign =>
      cases sign with
      | true => rfl
      | false => exact absurd negative (by decide)

/-! ## Both directions -/

/-- The number that has no place among the others. -/
def nan : Number := .float .nan

theorem place?_eq_none (x : Number) : x.place? = none ↔ x = nan := by
  cases x with
  | integer n => simp [place?, nan]
  | float x => cases x <;> simp [place?, nan]

theorem Place.order_swap (p q : Place) : (p.order q).swap = q.order p := by
  cases p with
  | belowAll => cases q <;> rfl
  | aboveAll => cases q <;> rfl
  | dyadic m₁ e₁ =>
    cases q with
    | belowAll => rfl
    | aboveAll => rfl
    | dyadic m₂ e₂ =>
      simp only [Place.order, align, Int.min_comm e₂ e₁]
      exact Std.OrientedCmp.eq_swap.symm

theorem order?_swap (x y : Number) : (x.order? y).map Ordering.swap = y.order? x := by
  unfold order?
  cases x.place? with
  | none => cases y.place? <;> rfl
  | some p =>
    cases y.place? with
    | none => rfl
    | some q => exact congrArg some (p.order_swap q)

theorem order?_eq_none (x y : Number) : x.order? y = none ↔ x = nan ∨ y = nan := by
  rw [← place?_eq_none, ← place?_eq_none]
  unfold order?
  cases x.place? <;> cases y.place? <;> simp

/-- A number is below another one exactly if neither is a NaN and the other one is not at most
    it. -/
theorem less_iff (x y : Number) : x.less y = true ↔ ¬ (x = nan ∨ y = nan) ∧ y.atMost x = false := by
  rw [← order?_eq_none, less, atMost, ← order?_swap x y]
  cases x.order? y with
  | none => simp
  | some order => cases order <;> simp

/-- A number is at most another one exactly if neither is a NaN and the other one is not below
    it. -/
theorem atMost_iff (x y : Number) :
    x.atMost y = true ↔ ¬ (x = nan ∨ y = nan) ∧ y.less x = false := by
  rw [← order?_eq_none, less, atMost, ← order?_swap x y]
  cases x.order? y with
  | none => simp
  | some order => cases order <;> simp

end Courier.Number
