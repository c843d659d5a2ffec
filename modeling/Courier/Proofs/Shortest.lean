import Courier.Proofs.Rounding
import Mathlib.Data.Nat.Cast.Order.Field

/-!
# The shortest digits of floating-point numbers

A neighbour of a number on a grid of decimals is taken if it lies in the interval of the number, and
so rounds to it (`Binary64.Rounding.Fits.rounds`). The grid of seventeen digits has such a neighbour
for every number, as its steps are less than the interval is wide (`Binary64.IsGrid.hits`). So the
digits found for a number are seventeen, and round to it (`Binary64.shortest_spells`).
-/

namespace Courier.Binary64

/-! ## The point of a ratio -/

/-- Whether a value is `0.d₁d₂… * 10 ^ p` with a first digit that is not zero. -/
structure HasPoint (p : Int) (value : ℚ) : Prop where
  low : (10 : ℚ) ^ (p - 1) ≤ value
  high : value < 10 ^ p

theorem pointAbove_spec {num den : Nat} (positive : 0 < den) (whole : den ≤ num) :
    HasPoint (pointAbove num den) (num / den) := by
  have positive' : (0 : ℚ) < den := by exact_mod_cast positive
  have given : 0 < num / den := Nat.div_pos whole positive
  obtain ⟨low, -⟩ := toDigits_bounds given
  have long :=
    (Nat.length_toDigits_le_iff (b := 10) (n := num / den) (by decide) Nat.length_toDigits_pos).mp
      le_rfl
  rw [pointAbove]
  constructor
  · exact low.trans Nat.cast_div_le
  · rw [zpow_natCast, div_lt_iff₀ positive']
    rw [Nat.div_lt_iff_lt_mul positive] at long
    exact_mod_cast long

theorem pointBelow_spec {num den : Nat} (positive : 0 < den) (fuel : Nat) (fraction : num < den)
    (enough : den ≤ num * 10 ^ (fuel + 1)) : HasPoint (pointBelow num den fuel) (num / den) := by
  have positive' : (0 : ℚ) < den := by exact_mod_cast positive
  have first (num : Nat) (fraction : num < den) (leads : den ≤ 10 * num) :
      HasPoint 0 ((num : ℚ) / den) := by
    constructor
    · rw [le_div_iff₀ positive']
      have : (den : ℚ) ≤ 10 * num := by exact_mod_cast leads
      norm_num
      linarith
    · rw [zpow_zero, div_lt_one positive']
      exact_mod_cast fraction
  induction fuel generalizing num with
  | zero => exact first num fraction (by omega)
  | succ fuel ih =>
    rw [pointBelow]
    split
    · exact first num fraction ‹_›
    · rename_i zero
      have more : den ≤ 10 * num * 10 ^ (fuel + 1) := by
        rw [pow_succ'] at enough
        linarith
      obtain ⟨low, high⟩ := ih (by omega) more
      have ten : (10 : ℚ) ≠ 0 := by norm_num
      rw [Nat.cast_mul, Nat.cast_ofNat, mul_div_assoc] at low high
      constructor
      · rw [zpow_sub_one₀ ten]
        linarith
      · rw [zpow_sub_one₀ ten]
        linarith

theorem point_spec {num den : Nat} (positive : 0 < den) (enough : den ≤ num * 10 ^ (400 + 1)) :
    HasPoint (point num den) (num / den) := by
  rw [point]
  split
  · exact pointAbove_spec positive ‹_›
  · exact pointBelow_spec positive 400 (by omega) enough

/-! ## The neighbours on a grid -/

/-- Of two candidates one that fits is picked. -/
theorem picked_cases {Lower Upper : Prop} [Decidable Lower] [Decidable Upper]
    {below above toBelow toAbove : Nat} {hit : Option Nat} (picked : (if Lower ∧ Upper then
        if toBelow < toAbove then some below
        else if toAbove < toBelow then some above
        else if below % 2 = 0 then some below else some above
      else if Lower then some below
      else if Upper then some above
      else none) = hit) :
    hit = some below ∧ Lower ∨ hit = some above ∧ Upper ∨ hit = none ∧ ¬ Lower ∧ ¬ Upper := by
  split at picked
  · rename_i both
    split at picked
    · exact .inl ⟨picked.symm, both.1⟩
    · split at picked
      · exact .inr (.inl ⟨picked.symm, both.2⟩)
      · split at picked
        · exact .inl ⟨picked.symm, both.1⟩
        · exact .inr (.inl ⟨picked.symm, both.2⟩)
  · split at picked
    · exact .inl ⟨picked.symm, ‹_›⟩
    · split at picked
      · exact .inr (.inl ⟨picked.symm, ‹_›⟩)
      · exact .inr (.inr ⟨picked.symm, ‹_›, ‹_›⟩)

/-- Whether digits lie in the interval that rounds to a number, on a grid. -/
structure Rounding.Fits (r : Rounding) (unit step digits : Nat) : Prop where
  low : r.low * unit ≤ digits * step
  high : digits * step ≤ r.high * unit
  strict : r.closed = true ∨ r.low * unit < digits * step ∧ digits * step < r.high * unit

namespace Rounding

variable {r : Rounding} {unit step : Nat}

/-- A hit on a grid is one of the two neighbours, and lies in the interval. -/
theorem onGrid?_spec (positive : 0 < unit) (wide : 0 < step) (low : r.low < r.value)
    (high : r.value < r.high) {digits : Nat} (hit : r.onGrid? unit step = some digits) :
    r.Fits unit step digits ∧ (digits = r.value * unit / step ∨
      digits = r.value * unit / step + 1) := by
  have under := Nat.div_mul_le_self (r.value * unit) step
  have past := (Nat.div_lt_iff_lt_mul wide).mp (Nat.lt_add_one (r.value * unit / step))
  have low := Nat.mul_lt_mul_of_pos_right low positive
  have high := Nat.mul_lt_mul_of_pos_right high positive
  rcases picked_cases hit with ⟨chosen, fits⟩ | ⟨chosen, fits⟩ | ⟨missed, -⟩
  · obtain rfl := Option.some.inj chosen
    refine ⟨?_, .inl rfl⟩
    split at fits
    · exact ⟨fits, by omega, .inl ‹_›⟩
    · exact ⟨fits.le, by omega, .inr ⟨fits, by omega⟩⟩
  · obtain rfl := Option.some.inj chosen
    refine ⟨?_, .inr rfl⟩
    split at fits
    · exact ⟨by omega, fits, .inl ‹_›⟩
    · exact ⟨by omega, fits.le, .inr ⟨by omega, fits⟩⟩
  · cases missed

/-- A grid is hit if its step is less than the interval is wide, and less than half of that if the
    lower half of the interval is short. -/
theorem onGrid?_hits (wide : 0 < step) (high : r.high = r.value + 2)
    (fine : step < 2 * unit ∨ step < 4 * unit ∧ r.value = r.low + 2) :
    ∃ digits, r.onGrid? unit step = some digits := by
  have under := Nat.div_mul_le_self (r.value * unit) step
  have past := (Nat.div_lt_iff_lt_mul wide).mp (Nat.lt_add_one (r.value * unit / step))
  rcases picked_cases (rfl : r.onGrid? unit step = _) with ⟨chosen, -⟩ | ⟨chosen,
    -⟩ | ⟨-, lower, upper⟩
  · exact ⟨_, chosen⟩
  · exact ⟨_, chosen⟩
  · -- the whole interval would lie between two neighbours
    exfalso
    generalize r.value * unit / step = below at *
    have lower : below * step ≤ r.low * unit := by
      split at lower <;> omega
    have upper : r.high * unit ≤ (below + 1) * step := by
      split at upper <;> omega
    rw [high, Nat.add_mul] at upper
    rw [Nat.add_one_mul below] at upper past
    rcases fine with fine | ⟨fine, whole⟩
    · omega
    · rw [whole, Nat.add_mul] at upper
      omega

end Rounding

variable {m : Nat} {e : Int}

theorem rounding_low (nonzero : 0 < m) : ((rounding m e).low : ℚ) = 4 * lowest m e := by
  rw [rounding, lowest, Nat.pow_eq]
  simp only
  split
  · rw [Nat.cast_sub (by omega)]
    push_cast
    ring
  · rw [Nat.cast_sub (by omega)]
    push_cast
    ring

/-- What lies in the interval of a number on a grid rounds to the number. -/
theorem Rounding.Fits.rounds {unit step digits : Nat} (fits : (rounding m e).Fits unit step digits)
    (nonzero : 0 < m) (positive : 0 < unit) {value : ℚ}
    (same : 4 * (value / 2 ^ e) = digits * step / unit) :
    Rounds m e value := by
  have positive' : (0 : ℚ) < unit := by exact_mod_cast positive
  have low : 4 * lowest m e ≤ digits * step / unit := by
    rw [le_div_iff₀ positive', ← rounding_low nonzero]
    exact_mod_cast fits.low
  have high : (digits * step / unit : ℚ) ≤ 4 * m + 2 := by
    rw [div_le_iff₀ positive']
    exact_mod_cast fits.high
  refine ⟨by linarith, by linarith, ?_⟩
  rcases fits.strict with closed | ⟨below, above⟩
  · exact .inl (of_decide_eq_true closed)
  · refine .inr ?_
    have low : 4 * lowest m e < digits * step / unit := by
      rw [lt_div_iff₀ positive', ← rounding_low nonzero]
      exact_mod_cast below
    have high : (digits * step / unit : ℚ) < 4 * m + 2 := by
      rw [div_lt_iff₀ positive']
      exact_mod_cast above
    exact ⟨by linarith, by linarith⟩

/-- Seventeen digits that round to a number. -/
structure Decimal.Spells (d : Decimal) (m : Nat) (e : Int) : Prop where
  rounds : Rounds m e (d.digits * 10 ^ (d.point - 17))
  low : 10 ^ 16 ≤ d.digits
  high : d.digits ≤ 10 ^ 17

section Grids

variable {unit step : Nat} {p : Int} {count : Nat}

/-- Whether a quarter of a unit, in steps of a grid, is that of a grid of so many digits. -/
structure IsGrid (e p : Int) (count unit step : Nat) : Prop where
  positive : 0 < unit
  wide : 0 < step
  ratio : (unit : ℚ) / step = 2 ^ (e - 2) * 10 ^ (count - p)

theorem isGrid {num den : Nat} (given : 0 < num) (positive : 0 < den)
    (quarter : (num : ℚ) / den = 2 ^ (e - 2)) :
    IsGrid e p count (num * Nat.pow 10 (count - p).toNat) (den * Nat.pow 10 (p - count).toNat) := by
  refine ⟨Nat.mul_pos given (Nat.pow_pos (by decide)),
    Nat.mul_pos positive (Nat.pow_pos (by decide)), ?_⟩
  have power := zpow_eq_div 10 (by decide) (count - p)
  rw [Nat.cast_ofNat, neg_sub] at power
  rw [← quarter, power, Nat.cast_mul, Nat.cast_mul, mul_div_mul_comm, Nat.pow_eq, Nat.pow_eq]

variable (grid : IsGrid e p count unit step)
include grid

/-- A number in steps of a grid. -/
theorem IsGrid.steps : ((4 * m * unit : Nat) : ℚ) / step = m * 2 ^ e * 10 ^ (count - p) := by
  have two : (2 : ℚ) ≠ 0 := by norm_num
  rw [Nat.cast_mul, mul_div_assoc, grid.ratio, zpow_sub₀ two]
  push_cast
  ring

theorem IsGrid.below_bounds (counts : 0 < count) (point : HasPoint p (m * 2 ^ e)) :
    10 ^ (count - 1) ≤ 4 * m * unit / step ∧ 4 * m * unit / step < 10 ^ count := by
  have wide : (0 : ℚ) < step := by exact_mod_cast grid.wide
  have ten : (10 : ℚ) ≠ 0 := by norm_num
  have steps := grid.steps (m := m)
  have power : (0 : ℚ) < 10 ^ (count - p) := by positivity
  constructor
  · have low : (10 : ℚ) ^ (count - 1) ≤ ((4 * m * unit : Nat) : ℚ) / step := by
      rw [steps, ← zpow_natCast, Nat.cast_sub counts]
      calc (10 : ℚ) ^ ((count : Int) - (1 : Nat)) = 10 ^ (p - 1) * 10 ^ (count - p) := by
            rw [← zpow_add₀ ten]
            congr 1
            push_cast
            ring
        _ ≤ m * 2 ^ e * 10 ^ (count - p) := by
            gcongr
            exact point.low
    rw [le_div_iff₀ wide] at low
    rw [Nat.le_div_iff_mul_le grid.wide]
    exact_mod_cast low
  · have high : ((4 * m * unit : Nat) : ℚ) / step < 10 ^ count := by
      rw [steps, ← zpow_natCast]
      calc (m : ℚ) * 2 ^ e * 10 ^ (count - p) < 10 ^ p * 10 ^ (count - p) := by
            gcongr
            exact point.high
        _ = 10 ^ (count : Int) := by
            rw [← zpow_add₀ ten]
            congr 1
            ring
    rw [div_lt_iff₀ wide] at high
    rw [Nat.div_lt_iff_lt_mul grid.wide]
    exact_mod_cast high

/-- A hit on a grid spells the number. -/
theorem IsGrid.spells {fuel : Nat} (counts : 0 < count) (whole : count + fuel = 17)
    (nonzero : 0 < m) (point : HasPoint p (m * 2 ^ e)) {digits : Nat}
    (hit : (rounding m e).onGrid? unit step = some digits) :
    Decimal.Spells ⟨digits * Nat.pow 10 fuel, p⟩ m e := by
  have low : (rounding m e).low < (rounding m e).value := by
    simp only [rounding]
    split <;> omega
  have high : (rounding m e).value < (rounding m e).high := by simp [rounding]
  obtain ⟨fits, near⟩ := Rounding.onGrid?_spec grid.positive grid.wide low high hit
  obtain ⟨least, greatest⟩ := grid.below_bounds counts point
  have bounds : 10 ^ (count - 1) ≤ digits ∧ digits ≤ 10 ^ count := by
    change digits = 4 * m * unit / step ∨ digits = 4 * m * unit / step + 1 at near
    omega
  have positive : (0 : ℚ) < unit := by exact_mod_cast grid.positive
  have wide : (0 : ℚ) < step := by exact_mod_cast grid.wide
  have two : (2 : ℚ) ≠ 0 := by norm_num
  have ten : (10 : ℚ) ≠ 0 := by norm_num
  constructor
  · apply fits.rounds nonzero grid.positive
    have steps : (digits : ℚ) * step / unit = digits / (2 ^ (e - 2) * 10 ^ (count - p)) := by
      rw [← grid.ratio]
      field_simp
    have shift : (10 : ℚ) ^ (p - 17) * 10 ^ fuel = (10 ^ (count - p))⁻¹ := by
      rw [← zpow_natCast, ← zpow_add₀ ten, ← zpow_neg]
      congr 1
      omega
    rw [steps, Nat.pow_eq, zpow_sub₀ two]
    push_cast
    rw [mul_assoc, mul_comm (10 ^ fuel), shift]
    field_simp
  · have sixteen : count - 1 + fuel = 16 := by omega
    calc 10 ^ 16 = 10 ^ (count - 1) * 10 ^ fuel := by rw [← pow_add, sixteen]
      _ ≤ digits * 10 ^ fuel := Nat.mul_le_mul_right _ bounds.1
  · calc digits * 10 ^ fuel ≤ 10 ^ count * 10 ^ fuel := Nat.mul_le_mul_right _ bounds.2
      _ = 10 ^ 17 := by rw [← pow_add, whole]

/-- The grid of seventeen digits has a hit. -/
theorem IsGrid.hits (seventeen : count = 17) (canonical : IsCanonical m e) (nonzero : 0 < m)
    (point : HasPoint p (m * 2 ^ e)) :
    ∃ digits, (rounding m e).onGrid? unit step = some digits := by
  subst seventeen
  have positive := grid.positive
  obtain ⟨least, -⟩ := grid.below_bounds (by decide) point
  rw [Nat.le_div_iff_mul_le grid.wide] at least
  apply Rounding.onGrid?_hits grid.wide rfl
  -- a mantissa is less than `10 ^ 16`, so a step is less than a unit, and less than half of one at
  -- `2 ^ 52`
  by_cases power : m = 2 ^ 52 ∧ minExponent < e
  · left
    rw [power.1] at least
    omega
  · right
    have small : 4 * m * unit ≤ 4 * (2 ^ 53 - 1) * unit :=
      Nat.mul_le_mul_right unit (Nat.mul_le_mul_left 4 (Nat.le_sub_one_of_lt canonical.small))
    refine ⟨by omega, ?_⟩
    simp only [rounding, Nat.pow_eq, if_neg power]
    omega

end Grids

variable {num den : Nat} {p : Int}

/-- The first grid with a hit spells the number. -/
theorem shortestFrom_spells (canonical : IsCanonical m e) (nonzero : 0 < m) (given : 0 < num)
    (positive : 0 < den) (quarter : (num : ℚ) / den = 2 ^ (e - 2)) (point : HasPoint p (m * 2 ^ e))
    (fuel : Nat) (few : fuel < 17) :
    (shortestFrom (rounding m e) num den p (fuel + 1)).Spells m e := by
  have grid (fuel : Nat) : IsGrid e p (17 - fuel) _ _ := isGrid given positive quarter
  have counts (fuel : Nat) (few : fuel < 17) : (17 : Int) - fuel = ((17 - fuel : Nat) : Int) := by
    omega
  induction fuel with
  | zero =>
    obtain ⟨digits, hit⟩ := (grid 0).hits rfl canonical nonzero point
    rw [shortestFrom, counts 0 few]
    simp only [hit]
    exact (grid 0).spells (by decide) rfl nonzero point hit
  | succ fuel ih =>
    rw [shortestFrom, counts (fuel + 1) few]
    split
    · rename_i digits hit
      exact (grid (fuel + 1)).spells (by omega) (by omega) nonzero point hit
    · exact ih (by omega)

/-- The shortest digits of a number round to it. -/
theorem shortest_spells (canonical : IsCanonical m e) (nonzero : 0 < m) :
    (shortest m e).Spells m e := by
  have num : 0 < Nat.pow 2 (e - 2).toNat := Nat.pow_pos (by decide)
  have den : 0 < Nat.pow 2 (2 - e).toNat := Nat.pow_pos (by decide)
  have quarter : ((Nat.pow 2 (e - 2).toNat : Nat) : ℚ) / (Nat.pow 2 (2 - e).toNat : Nat) =
    2 ^ (e - 2) := by
    have power := zpow_eq_div 2 (by decide) (e - 2)
    rw [Nat.cast_ofNat, neg_sub] at power
    exact power.symm
  have value : ((4 * m * Nat.pow 2 (e - 2).toNat : Nat) : ℚ) / (Nat.pow 2 (2 - e).toNat : Nat) =
    m * 2 ^ e := by
    rw [Nat.cast_mul, mul_div_assoc, quarter, zpow_sub₀ (by norm_num)]
    push_cast
    ring
  have point : HasPoint (point (4 * m * Nat.pow 2 (e - 2).toNat) (Nat.pow 2 (2 - e).toNat))
    (m * 2 ^ e) := by
    rw [← value]
    apply point_spec den
    have least : -1074 ≤ e := canonical.least
    calc Nat.pow 2 (2 - e).toNat ≤ 2 ^ (3 * (400 + 1)) :=
        Nat.pow_le_pow_right (by decide) (by omega)
      _ ≤ 10 ^ (400 + 1) := two_pow_le _
      _ ≤ 4 * m * Nat.pow 2 (e - 2).toNat * 10 ^ (400 + 1) :=
        Nat.le_mul_of_pos_left _ (Nat.mul_pos (by omega) num)
  exact shortestFrom_spells canonical nonzero num den quarter point 16 (by decide)

end Courier.Binary64
