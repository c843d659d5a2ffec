import Courier.Number.Shortest
import Mathlib.Algebra.Order.Field.Power
import Mathlib.Data.Rat.Cast.Order
import Mathlib.Tactic.FieldSimp
import Mathlib.Tactic.GCongr
import Mathlib.Tactic.Linarith
import Mathlib.Tactic.NormNum.Pow
import Mathlib.Tactic.Positivity
import Mathlib.Tactic.Ring

/-!
# Decimals rounded to floating-point numbers

The values that round to a finite number lie between the midpoints of the number and its neighbours
(`Binary64.Rounds`). A ratio is rounded in the units of the binade in which it lies
(`Binary64.ofRatio_binade`), and a value that rounds to a number lies in the binade of this number,
or right below it. So a ratio, and a decimal with it, is read as the number that it rounds to
(`Binary64.ofRatio_eq`, `Binary64.ofDecimal_eq`). Whatever is read is a number of 64 bits
(`Binary64.read?_wellFormed`).
-/

namespace Courier.Binary64

/-- A power with a signed exponent is a quotient of two without a sign. -/
theorem zpow_eq_div (base : Nat) (positive : 0 < base) (e : Int) :
    (base : ℚ) ^ e = ((base ^ e.toNat : Nat) : ℚ) / ((base ^ (-e).toNat : Nat) : ℚ) := by
  have nonzero : (base : ℚ) ≠ 0 := by positivity
  rw [Nat.cast_pow, Nat.cast_pow, ← zpow_natCast, ← zpow_natCast, ← zpow_sub₀ nonzero]
  congr 1
  omega

/-- A quotient is rounded to what it is at most a half away from, if that is even or nearer. -/
theorem divRoundEven_eq {num den k : Nat} (positive : 0 < den) (low : (k : ℚ) - 1 / 2 ≤ num / den)
    (high : (num : ℚ) / den ≤ k + 1 / 2)
    (strict : k % 2 = 0 ∨ (k : ℚ) - 1 / 2 < num / den ∧ (num : ℚ) / den < k + 1 / 2) :
    divRoundEven num den = k := by
  have positive' : (0 : ℚ) < den := by exact_mod_cast positive
  have low : 2 * (k * den) ≤ 2 * num + den := by
    rw [le_div_iff₀ positive'] at low
    exact_mod_cast (by linarith : (2 * (k * den) : ℚ) ≤ 2 * num + den)
  have high : 2 * num ≤ 2 * (k * den) + den := by
    rw [div_le_iff₀ positive'] at high
    exact_mod_cast (by linarith : (2 * num : ℚ) ≤ 2 * (k * den) + den)
  have strict : k % 2 = 0 ∨ 2 * (k * den) < 2 * num + den ∧ 2 * num < 2 * (k * den) + den := by
    rw [lt_div_iff₀ positive', div_lt_iff₀ positive'] at strict
    refine strict.imp_right fun ⟨below, above⟩ => ⟨?_, ?_⟩
    · exact_mod_cast (by linarith : (2 * (k * den) : ℚ) < 2 * num + den)
    · exact_mod_cast (by linarith : (2 * num : ℚ) < 2 * (k * den) + den)
  have parts := Nat.div_add_mod num den
  have rest := Nat.mod_lt num positive
  rw [divRoundEven]
  generalize num / den = q at *
  generalize num % den = r at *
  subst parts
  -- the integer part is what the quotient is rounded to, or one less
  have near : q = k ∨ q + 1 = k := by
    have above : q ≤ k := by
      by_contra apart
      have : (k + 1) * den ≤ q * den := Nat.mul_le_mul_right den (by omega)
      linarith
    have below : k ≤ q + 1 := by
      by_contra apart
      have : (q + 2) * den ≤ k * den := Nat.mul_le_mul_right den (by omega)
      linarith
    omega
  rcases near with rfl | rfl
  · have half : 2 * r ≤ den := by linarith
    rcases half.lt_or_eq with less | tie
    · rw [if_pos less]
    · have even : q % 2 = 0 := strict.resolve_right fun strict => absurd strict.2 (by linarith)
      rw [if_neg (by omega), if_neg (by omega), if_pos even]
  · have half : den ≤ 2 * r := by linarith
    rcases half.lt_or_eq with more | tie
    · rw [if_neg (by omega), if_pos more]
    · have even : (q + 1) % 2 = 0 :=
        strict.resolve_right fun strict => absurd strict.1 (by linarith)
      rw [if_neg (by omega), if_neg (by omega), if_neg (by omega)]

theorem scaleRatio_value (num : Nat) {den : Nat} (positive : 0 < den) (e : Int) :
    0 < (scaleRatio num den e).2 ∧
    ((scaleRatio num den e).1 : ℚ) / (scaleRatio num den e).2 = num / den / 2 ^ e := by
  have power := zpow_eq_div 2 (by decide) e
  rw [Nat.cast_ofNat] at power
  rw [scaleRatio, power]
  split
  · rename_i above
    rw [show (-e).toNat = 0 by omega, Nat.pow_eq]
    refine ⟨by positivity, ?_⟩
    push_cast
    field_simp
  · rename_i below
    rw [show e.toNat = 0 by omega, Nat.pow_eq]
    refine ⟨positive, ?_⟩
    push_cast
    field_simp

theorem log2_bounds {n : Nat} (positive : 0 < n) :
    (2 : ℚ) ^ (Nat.log2 n : Int) ≤ n ∧ (n : ℚ) < 2 ^ ((Nat.log2 n : Int) + 1) := by
  constructor
  · rw [zpow_natCast]
    exact_mod_cast Nat.log2_self_le positive.ne'
  · rw [← Nat.cast_succ, zpow_natCast]
    exact_mod_cast Nat.lt_log2_self

/-- A positive ratio lies around the quotient of the powers of two below its parts. -/
theorem ratio_bounds {num den : Nat} (given : 0 < num) (positive : 0 < den) :
    (2 : ℚ) ^ ((Nat.log2 num : Int) - Nat.log2 den - 1) < num / den ∧
      (num : ℚ) / den < 2 ^ ((Nat.log2 num : Int) - Nat.log2 den + 1) := by
  have top := log2_bounds given
  have bottom := log2_bounds positive
  have positive' : (0 : ℚ) < den := by exact_mod_cast positive
  have given' : (0 : ℚ) < num := by exact_mod_cast given
  have two : (2 : ℚ) ≠ 0 := by norm_num
  constructor
  · have split : (Nat.log2 num : Int) - Nat.log2 den - 1 = Nat.log2 num - (Nat.log2 den + 1) := by
      ring
    rw [lt_div_iff₀ positive', split, zpow_sub₀ two, div_mul_eq_mul_div,
      div_lt_iff₀ (by positivity)]
    calc (2 : ℚ) ^ (Nat.log2 num : Int) * den ≤ num * den := by gcongr; exact top.1
      _ < num * 2 ^ ((Nat.log2 den : Int) + 1) := by gcongr; exact bottom.2
  · have split : (Nat.log2 num : Int) - Nat.log2 den + 1 = Nat.log2 num + 1 - Nat.log2 den := by
      ring
    rw [div_lt_iff₀ positive', split, zpow_sub₀ two, div_mul_eq_mul_div,
      lt_div_iff₀ (by positivity)]
    calc (num : ℚ) * 2 ^ (Nat.log2 den : Int) ≤ num * den := by gcongr; exact bottom.1
      _ < 2 ^ ((Nat.log2 num : Int) + 1) * den := by gcongr; exact top.2

/-- The ratio in units of a power of two is less than another power exactly if its integer part
    is. -/
theorem scaleRatio_lt_iff (num : Nat) {den : Nat} (positive : 0 < den) (e : Int) (k : Nat) :
    (scaleRatio num den e).1 / (scaleRatio num den e).2 < 2 ^ k ↔
      (num : ℚ) / den < 2 ^ (e + k) := by
  obtain ⟨scaled, value⟩ := scaleRatio_value num positive e
  have scaled' : (0 : ℚ) < (scaleRatio num den e).2 := by exact_mod_cast scaled
  have two : (2 : ℚ) ≠ 0 := by norm_num
  rw [Nat.div_lt_iff_lt_mul scaled, zpow_add₀ two, mul_comm (2 ^ e),
    ← div_lt_iff₀ (by positivity), ← value, div_lt_iff₀ scaled', zpow_natCast]
  exact_mod_cast Iff.rfl

/-- Whether a value is rounded in units of `2 ^ e`: it is less than `2 ^ 53` of them, and at least
    `2 ^ 52` unless they are the least ones. -/
structure InBinade (e : Int) (value : ℚ) : Prop where
  least : minExponent ≤ e
  below : value < 2 ^ (e + 53)
  above : e = minExponent ∨ (2 : ℚ) ^ (e + 52) ≤ value

theorem InBinade.le {d e : Int} {value : ℚ} (first : InBinade d value)
    (second : InBinade e value) : d ≤ e := by
  rcases first.above with least | above
  · exact least ▸ second.least
  · have powers :=
      (zpow_lt_zpow_iff_right₀ (by norm_num : (1 : ℚ) < 2)).mp (above.trans_lt second.below)
    omega

theorem InBinade.unique {d e : Int} {value : ℚ} (first : InBinade d value)
    (second : InBinade e value) : d = e :=
  le_antisymm (first.le second) (second.le first)

/-- A ratio is rounded in the units of its binade. -/
theorem ofRatio_binade (negative : Bool) {num den : Nat} (given : 0 < num) (positive : 0 < den) :
    ∃ e : Int, InBinade e (num / den) ∧ ofRatio negative num den =
      ofMantissa negative (divRoundEven (scaleRatio num den e).1 (scaleRatio num den e).2) e := by
  obtain ⟨above, below⟩ := ratio_bounds given positive
  rw [ofRatio, if_neg given.ne']
  simp only
  generalize start : max minExponent ((Nat.log2 num : Int) - (Nat.log2 den : Int) - 53) = e
  by_cases small : (scaleRatio num den e).1 / (scaleRatio num den e).2 < Nat.pow 2 53
  · refine ⟨e, ⟨by omega, (scaleRatio_lt_iff num positive e 53).mp small, ?_⟩, if_pos small⟩
    by_cases least : e = minExponent
    · exact .inl least
    · refine .inr (le_of_lt ?_)
      rwa [show e + 52 = (Nat.log2 num : Int) - Nat.log2 den - 1 by omega]
  · refine ⟨e + 1, ⟨by omega, ?_, .inr ?_⟩, if_neg small⟩
    · refine below.trans_le (zpow_le_zpow_right₀ (by norm_num) ?_)
      omega
    · rw [Nat.pow_eq, scaleRatio_lt_iff num positive, not_lt] at small
      rwa [show e + 1 + 52 = e + 53 by ring]

theorem two_pow_le (n : Nat) : 2 ^ (3 * n) ≤ 10 ^ n := by
  rw [pow_mul]
  exact Nat.pow_le_pow_left (by decide) n

theorem two_zpow_le (n : Nat) : (2 : ℚ) ^ (3 * n : Int) ≤ 10 ^ (n : Int) := by
  exact_mod_cast two_pow_le n

/-- The digits of a positive number tell between which powers of ten it lies. -/
theorem toDigits_bounds {n : Nat} (positive : 0 < n) :
    (10 : ℚ) ^ (((Nat.toDigits 10 n).length : Int) - 1) ≤ n ∧ (n : ℚ) < 10 ^
    ((Nat.toDigits 10 n).length : Int) := by
  have given : 0 < (Nat.toDigits 10 n).length := Nat.length_toDigits_pos
  constructor
  · rw [← Nat.cast_one, ← Nat.cast_sub given, zpow_natCast]
    rcases Nat.eq_zero_or_pos ((Nat.toDigits 10 n).length - 1) with none | more
    · rw [none]
      exact_mod_cast positive
    · have long : ¬ (Nat.toDigits 10 n).length ≤ (Nat.toDigits 10 n).length - 1 := by omega
      rw [Nat.length_toDigits_le_iff (by decide) more, not_lt] at long
      exact_mod_cast long
  · rw [zpow_natCast]
    exact_mod_cast (Nat.length_toDigits_le_iff (by decide) given).mp le_rfl

/-- Whether a mantissa and an exponent are those of a finite number. -/
structure IsCanonical (m : Nat) (e : Int) : Prop where
  small : m < 2 ^ 53
  least : minExponent ≤ e
  greatest : e ≤ maxExponent
  normal : 2 ^ 52 ≤ m ∨ e = minExponent

/-- Whether a number is a finite one of 64 bits. -/
def IsFinite : Binary64 → Prop
  | nan => False
  | infinite _ => False
  | finite _ m e => IsCanonical m e

/-- The least value that rounds to a mantissa, in units of its last place. Below a power of two they
    are half as large. -/
def lowest (m : Nat) (e : Int) : ℚ := if m = 2 ^ 52 ∧ minExponent < e then m - 1 / 4 else m - 1 / 2

/-- Whether a value lies where all values round to `m * 2 ^ e`. -/
structure Rounds (m : Nat) (e : Int) (value : ℚ) : Prop where
  low : lowest m e ≤ value / 2 ^ e
  high : value / 2 ^ e ≤ m + 1 / 2
  strict : m % 2 = 0 ∨ lowest m e < value / 2 ^ e ∧ value / 2 ^ e < m + 1 / 2

theorem half_le_lowest (m : Nat) (e : Int) : (m : ℚ) - 1 / 2 ≤ lowest m e := by
  unfold lowest
  split <;> linarith

theorem ofMantissa_eq (negative : Bool) {m : Nat} {e : Int} (canonical : IsCanonical m e) :
    ofMantissa negative m e = finite negative m e := by
  rw [ofMantissa, Nat.pow_eq, if_neg canonical.small.ne]
  exact if_neg (not_lt.mpr canonical.greatest)

theorem ofMantissa_carry (negative : Bool) {e : Int} (fits : e ≤ maxExponent) :
    ofMantissa negative (2 ^ 53) (e - 1) = finite negative (2 ^ 52) e := by
  rw [ofMantissa, Nat.pow_eq, if_pos rfl]
  simp only [Int.sub_add_cancel]
  exact if_neg (not_lt.mpr fits)

section Rounds

variable {m : Nat} {e : Int} {value : ℚ}

/-- A value that rounds to a number lies in its binade, or in the one below if the number is the
    least of its own. -/
theorem Rounds.inBinade (rounds : Rounds m e value) (canonical : IsCanonical m e) :
    InBinade e value ∨ m = 2 ^ 52 ∧ InBinade (e - 1) value := by
  have unit : (0 : ℚ) < 2 ^ e := by positivity
  have two : (2 : ℚ) ≠ 0 := by norm_num
  have small : (m : ℚ) + 1 ≤ 2 ^ 53 := by exact_mod_cast canonical.small
  have low := (half_le_lowest m e).trans rounds.low
  have below : value < 2 ^ (e + 53) := by
    rw [zpow_add₀ two, ← div_lt_iff₀' unit]
    have := rounds.high
    norm_num at small ⊢
    linarith
  -- only below the least mantissa of a binade, by a quarter at most, a value leaves the binade of
  -- the number
  by_cases reaches : e = minExponent ∨ (2 : ℚ) ^ (e + 52) ≤ value
  · exact .inl ⟨canonical.least, below, reaches⟩
  · rw [not_or, not_le, zpow_add₀ two, ← div_lt_iff₀' unit] at reaches
    obtain ⟨least, short⟩ := reaches
    have normal : 2 ^ 52 ≤ m := canonical.normal.resolve_right least
    have power : m = 2 ^ 52 := by
      by_contra other
      have more : (2 : ℚ) ^ 52 + 1 ≤ m := by exact_mod_cast (by omega : 2 ^ 52 + 1 ≤ m)
      norm_num at short
      linarith
    refine .inr ⟨power, ?_, ?_, .inr ?_⟩
    · have := canonical.least
      omega
    · rwa [show e - 1 + 53 = e + 52 by ring, zpow_add₀ two, ← div_lt_iff₀' unit]
    · rw [show e - 1 + 52 = e + 51 by ring, zpow_add₀ two, ← le_div_iff₀' unit]
      rw [power] at low
      norm_num at low ⊢
      linarith

/-- A ratio is rounded to the number that it rounds to. -/
theorem ofRatio_eq (negative : Bool) (canonical : IsCanonical m e) {num den : Nat} (given : 0 < num)
    (positive : 0 < den) (rounds : Rounds m e (num / den)) :
    ofRatio negative num den = finite negative m e := by
  obtain ⟨d, binade, rounded⟩ := ofRatio_binade negative given positive
  obtain ⟨scaled, ratio⟩ := scaleRatio_value num positive d
  rw [rounded]
  rcases rounds.inBinade canonical with own | ⟨rfl, below⟩
  · obtain rfl := binade.unique own
    have half := half_le_lowest m d
    have near : divRoundEven (scaleRatio num den d).1 (scaleRatio num den d).2 = m := by
      apply divRoundEven_eq scaled
      · rw [ratio]
        exact half.trans rounds.low
      · rw [ratio]
        exact rounds.high
      · rw [ratio]
        exact rounds.strict.imp_right fun ⟨low, high⟩ => ⟨half.trans_lt low, high⟩
    rw [near, ofMantissa_eq negative canonical]
  · obtain rfl := binade.unique below
    have unit : (0 : ℚ) < 2 ^ e := by positivity
    have two : (2 : ℚ) ≠ 0 := by norm_num
    have halved : (num : ℚ) / den / 2 ^ (e - 1) = 2 * (num / den / 2 ^ e) := by
      rw [zpow_sub_one₀ two]
      field_simp
    -- the number is the least of its binade, and the value is nearer to it than half a unit of the
    -- one below
    have near : divRoundEven (scaleRatio num den (e - 1)).1 (scaleRatio num den (e - 1)).2 =
      2 ^ 53 := by
      have low := rounds.low
      rw [lowest, if_pos ⟨rfl, by have := below.least; omega⟩] at low
      have high := below.below
      rw [show e - 1 + 53 = e + 52 by ring, zpow_add₀ two, ← div_lt_iff₀' unit] at high
      apply divRoundEven_eq scaled
      · rw [ratio, halved]
        push_cast at low ⊢
        linarith
      · rw [ratio, halved]
        norm_num at high ⊢
        linarith
      · exact .inl rfl
    rw [near, ofMantissa_carry negative canonical.greatest]

/-- What rounds to a positive finite number is between the powers of two around all of these. -/
theorem Rounds.bounds (rounds : Rounds m e value) (canonical : IsCanonical m e) (nonzero : 0 < m) :
    (2 : ℚ) ^ (-1075 : Int) ≤ value ∧ value < 2 ^ (1024 : Int) := by
  have unit : (0 : ℚ) < 2 ^ e := by positivity
  have two : (2 : ℚ) ≠ 0 := by norm_num
  have one : (1 : ℚ) < 2 := by norm_num
  have small : (m : ℚ) + 1 ≤ 2 ^ 53 := by exact_mod_cast canonical.small
  have given : (1 : ℚ) ≤ m := by exact_mod_cast nonzero
  have low := (half_le_lowest m e).trans rounds.low
  have high := rounds.high
  have least : (-1074 : Int) ≤ e := canonical.least
  have greatest : e ≤ (971 : Int) := canonical.greatest
  constructor
  · refine (zpow_le_zpow_right₀ one.le (by omega : (-1075 : Int) ≤ e - 1)).trans ?_
    rw [zpow_sub_one₀ two, ← le_div_iff₀' unit]
    linarith
  · refine lt_of_lt_of_le ?_ (zpow_le_zpow_right₀ one.le (by omega : e + 53 ≤ (1024 : Int)))
    rw [zpow_add₀ two, ← div_lt_iff₀' unit]
    norm_num at small ⊢
    linarith

/-- A decimal is read as the number that it rounds to. -/
theorem ofDecimal_eq (negative : Bool) (canonical : IsCanonical m e) (nonzero : 0 < m)
    {digits : Nat} {exponent : Int} (given : 0 < digits)
    (rounds : Rounds m e (digits * 10 ^ exponent)) :
    ofDecimal negative digits exponent = finite negative m e := by
  obtain ⟨low, high⟩ := rounds.bounds canonical nonzero
  obtain ⟨least, greatest⟩ := toDigits_bounds given
  have ten : (10 : ℚ) ≠ 0 := by norm_num
  have one : (1 : ℚ) ≤ 10 := by norm_num
  have power : (0 : ℚ) < 10 ^ exponent := by positivity
  have above : (10 : ℚ) ^ (exponent + (Nat.toDigits 10 digits).length - 1) ≤
    digits * 10 ^ exponent := by
    rw [add_sub_assoc, zpow_add₀ ten, mul_comm]
    gcongr
  have below : (digits : ℚ) * 10 ^ exponent <
    10 ^ (exponent + (Nat.toDigits 10 digits).length) := by
    rw [zpow_add₀ ten, mul_comm]
    gcongr
  rw [ofDecimal]
  generalize exponent + ((Nat.toDigits 10 digits).length : Int) = places at *
  have long : ¬ places < -400 := by
    intro short
    have less : (10 : ℚ) ^ places ≤ 10 ^ (-401 : Int) := zpow_le_zpow_right₀ one (by omega)
    have tiny : (10 : ℚ) ^ (-401 : Int) < 2 ^ (-1075 : Int) := by
      rw [zpow_neg, zpow_neg]
      apply inv_strictAnti₀ (by positivity)
      exact (zpow_lt_zpow_right₀ (by norm_num) (by decide)).trans_le (two_zpow_le 401)
    exact lt_irrefl _ (((below.trans_le less).trans tiny).trans_le low)
  have short : ¬ 400 < places := by
    intro long
    have more : (10 : ℚ) ^ (400 : Int) ≤ 10 ^ (places - 1) := zpow_le_zpow_right₀ one (by omega)
    have huge : (2 : ℚ) ^ (1024 : Int) < 10 ^ (400 : Int) :=
      (zpow_lt_zpow_right₀ (by norm_num) (by decide)).trans_le (two_zpow_le 400)
    exact lt_irrefl _ ((high.trans huge).trans_le (more.trans above))
  rw [if_neg (not_or.mpr ⟨given.ne', long⟩), if_neg short]
  have ratio := zpow_eq_div 10 (by decide) exponent
  rw [Nat.cast_ofNat] at ratio
  rw [ratio] at rounds
  split
  · rename_i whole
    rw [show (-exponent).toNat = 0 by omega, pow_zero, Nat.cast_one, div_one] at rounds
    apply ofRatio_eq negative canonical
    · exact Nat.mul_pos given (Nat.pow_pos (by decide))
    · decide
    · rw [Nat.pow_eq]
      simpa using rounds
  · rename_i fraction
    rw [show exponent.toNat = 0 by omega, pow_zero, Nat.cast_one, mul_one_div] at rounds
    apply ofRatio_eq negative canonical given
    · exact Nat.pow_pos (by decide)
    · exact rounds

end Rounds

/-! ## What is read -/

/-- Whether a number is one of 64 bits. -/
def IsWellFormed : Binary64 → Prop
  | nan => True
  | infinite _ => True
  | finite _ m e => IsCanonical m e

theorem zero_canonical : IsCanonical 0 minExponent := ⟨by decide, le_rfl, by decide, .inr rfl⟩

theorem divRoundEven_bounds (num den : Nat) :
    num / den ≤ divRoundEven num den ∧ divRoundEven num den ≤ num / den + 1 := by
  unfold divRoundEven
  simp only
  split_ifs <;> omega

theorem ofMantissa_wellFormed (negative : Bool) {m : Nat} {e : Int} (atMost : m ≤ 2 ^ 53)
    (least : minExponent ≤ e)
    (normal : 2 ^ 52 ≤ m ∨ e = minExponent) : (ofMantissa negative m e).IsWellFormed := by
  rw [ofMantissa, Nat.pow_eq, Nat.pow_eq]
  by_cases carries : m = 2 ^ 53
  · rw [if_pos carries]
    simp only
    split
    · trivial
    · exact ⟨by decide, by omega, by omega, .inl le_rfl⟩
  · rw [if_neg carries]
    simp only
    split
    · trivial
    · exact ⟨by omega, least, by omega, normal⟩

theorem ofRatio_wellFormed (negative : Bool) (num : Nat) {den : Nat} (positive : 0 < den) :
    (ofRatio negative num den).IsWellFormed := by
  rcases Nat.eq_zero_or_pos num with rfl | given
  · exact zero_canonical
  · obtain ⟨e, binade, rounded⟩ := ofRatio_binade negative given positive
    obtain ⟨low, high⟩ := divRoundEven_bounds (scaleRatio num den e).1 (scaleRatio num den e).2
    have small := (scaleRatio_lt_iff num positive e 53).mpr binade.below
    rw [rounded]
    apply ofMantissa_wellFormed negative (by omega) binade.least
    rcases binade.above with least | above
    · exact .inr least
    · left
      have large := (scaleRatio_lt_iff num positive e 52).not.mpr (not_lt.mpr above)
      omega

theorem ofDecimal_wellFormed (negative : Bool) (digits : Nat) (exponent : Int) :
    (ofDecimal negative digits exponent).IsWellFormed := by
  unfold ofDecimal
  simp only
  split
  · exact zero_canonical
  · split
    · trivial
    · split
      · exact ofRatio_wellFormed negative _ (by decide)
      · exact ofRatio_wellFormed negative _ (Nat.pow_pos (by decide))

/-- Whatever literal is read, the number is one of 64 bits. -/
theorem read?_wellFormed {cs : List Char} {x : Binary64} (read : read? cs = some x) :
    x.IsWellFormed := by
  unfold read? at read
  simp only at read
  split at read
  · obtain rfl := Option.some.inj read
    trivial
  · split at read
    · obtain rfl := Option.some.inj read
      trivial
    · split at read
      · obtain rfl := Option.some.inj read
        exact ofDecimal_wellFormed _ _ _
      · cases read

end Courier.Binary64
