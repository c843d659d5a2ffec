import Courier.Proofs.Decimal
import Courier.Proofs.Shortest
import Courier.Proofs.Spans

/-!
# The texts of floating-point numbers read back

A literal with a fraction or an exponent is read as the number nearest to its decimal
(`Json.Literal.IsFloat.number?_text`). In whichever notation digits are laid out, they are a literal
of the decimal that they are the digits of (`Json.IsSpelling.exists_literal`). As the shortest
digits of a finite number round to it, the number is read from its text (`Json.number?_text`).
-/

namespace Courier.Json

open Binary64 (ofDecimal readExponent? digitsValue? digitsValue?_of_isDigit readSign)

/-- A number that is written with a fraction or an exponent. -/
structure Literal where
  whole : List Char
  fraction : List Char
  exponent : List Char

namespace Literal

/-- What is after the whole part. -/
def tail (l : Literal) : List Char :=
  if l.fraction = [] then l.exponent else '.' :: (l.fraction ++ l.exponent)

/-- The text of a literal. -/
def text (l : Literal) : List Char := l.whole ++ l.tail

/-- The digits of a literal as a number. -/
def digits (l : Literal) : Nat := Nat.ofDigitChars 10 (l.whole ++ l.fraction) 0

/-- Whether a literal is one of a floating-point number with this exponent. -/
structure IsFloat (l : Literal) (x : Int) : Prop where
  isWhole : isWhole l.whole = true
  whole : ∀ c ∈ l.whole, c.isDigit = true
  fraction : ∀ c ∈ l.fraction, c.isDigit = true
  exponent : readExponent? l.exponent = some x
  ends : ∀ c ∈ l.exponent.head?, c.isDigit = false ∧ c ≠ '.'
  marked : l.fraction ≠ [] ∨ l.exponent ≠ []

namespace IsFloat

variable {l : Literal} {x : Int} (float : l.IsFloat x)
include float

theorem whole_ne_nil : l.whole ≠ [] := by
  intro none
  have := float.isWhole
  rw [none] at this
  cases this

theorem begins : ∃ c cs, l.text = c :: cs ∧ c.isDigit = true := by
  obtain ⟨c, cs, whole⟩ := List.exists_cons_of_ne_nil float.whole_ne_nil
  exact ⟨c, cs ++ l.tail, by rw [text, whole, List.cons_append],
    float.whole c (whole ▸ List.mem_cons_self)⟩

theorem exponent_stops : ∀ c ∈ l.exponent.head?, c.isDigit = false :=
  fun c first => (float.ends c first).1

/-- A literal is split after its whole part. -/
theorem whole_span :
    l.text.takeWhile Char.isDigit = l.whole ∧ l.text.dropWhile Char.isDigit = l.tail := by
  apply span_append_of_stops _ float.whole
  rw [tail]
  split
  · exact float.exponent_stops
  · rintro _ ⟨⟩
    rfl

/-- What is not whole has a character that is no digit. -/
theorem exists_mark : ∃ c ∈ l.tail, c.isDigit = false := by
  rw [tail]
  split
  · rename_i none
    obtain ⟨c, cs, exponent⟩ :=
      List.exists_cons_of_ne_nil (float.marked.resolve_left (not_not.mpr none))
    exact ⟨c, exponent ▸ List.mem_cons_self, float.exponent_stops c (by rw [exponent]; rfl)⟩
  · exact ⟨'.', List.mem_cons_self, rfl⟩

theorem isNumeral_text : isNumeral l.text = true := by
  have after : afterFraction? l.tail = some l.exponent := by
    rw [tail]
    split
    · unfold afterFraction?
      split
      · rename_i point
        exact absurd rfl (float.ends '.' (by rw [point]; rfl)).2
      · rfl
    · rename_i given
      obtain ⟨digits, rest⟩ := span_append_of_stops float.exponent_stops float.fraction
      rw [afterFraction?, digits, rest, if_neg (by simpa using given)]
  rw [isNumeral, float.whole_span.1, float.whole_span.2, float.isWhole, after, Option.bind_some,
    float.exponent]
  rfl

theorem digitsValue?_text : digitsValue? l.text = none := by
  obtain ⟨c, member, mark⟩ := float.exists_mark
  have other : l.text.any (fun c => !c.isDigit) = true :=
    List.any_eq_true.mpr ⟨c, List.mem_append_right _ member, by rw [mark]; rfl⟩
  rw [digitsValue?, if_pos (.inr other)]

/-- A literal starts with no sign, and with no letter. -/
theorem ne_cons {c : Char} (other : c.isDigit = false) (cs : List Char) : l.text ≠ c :: cs := by
  obtain ⟨d, ds, written, digit⟩ := float.begins
  rw [written]
  rintro ⟨rfl, -⟩
  exact absurd digit (Bool.eq_false_iff.mp other)

theorem readSign_text (negative : Bool) :
    readSign ((if negative then ['-'] else []) ++ l.text) = (negative, l.text) := by
  cases negative with
  | true => rfl
  | false =>
    change readSign l.text = _
    unfold readSign
    split
    · exact absurd ‹_› (float.ne_cons rfl _)
    · exact absurd ‹_› (float.ne_cons rfl _)
    · rfl

/-- A literal is read as the number nearest to its decimal. -/
theorem read?_text (negative : Bool) : Binary64.read? ((if negative then ['-'] else []) ++ l.text) =
    some (ofDecimal negative l.digits (x - l.fraction.length)) := by
  have value : digitsValue? (l.whole ++ l.fraction) = some l.digits :=
    digitsValue?_of_isDigit (List.append_ne_nil_of_left_ne_nil float.whole_ne_nil _)
      (List.forall_mem_append.mpr ⟨float.whole, float.fraction⟩)
  rw [Binary64.read?, float.readSign_text]
  simp only
  rw [if_neg (float.ne_cons rfl _), if_neg (not_or.mpr ⟨float.ne_cons rfl _, float.ne_cons rfl _⟩),
    float.whole_span.1, float.whole_span.2, tail]
  by_cases given : l.fraction = []
  · have pointless (rest : List Char) : l.exponent ≠ '.' :: rest :=
      fun point => absurd rfl (float.ends '.' (by rw [point]; rfl)).2
    rw [if_pos given]
    rw [given, List.append_nil] at value
    simp only [value, float.exponent, given, List.append_nil]
  · obtain ⟨digits, rest⟩ := span_append_of_stops float.exponent_stops float.fraction
    rw [if_neg given]
    simp only [digits, rest, value, float.exponent]

/-- A literal of JSON is read as the number nearest to its decimal. -/
theorem number?_text (negative : Bool) : number? ((if negative then ['-'] else []) ++ l.text) =
    some (.float (ofDecimal negative l.digits (x - l.fraction.length))) := by
  have unsigned : (if ((if negative then ['-'] else []) ++ l.text).head? = some '-' then
      ((if negative then ['-'] else []) ++ l.text).drop 1 else (if negative then ['-'] else []) ++
        l.text) = l.text := by
    cases negative with
    | true => rfl
    | false =>
      refine if_neg fun minus => ?_
      obtain ⟨cs, written⟩ := List.head?_eq_some_iff.mp minus
      exact float.ne_cons rfl cs written
  rw [number?, unsigned]
  simp only [float.isNumeral_text, float.digitsValue?_text, float.read?_text, if_true,
    Option.map_some]

end IsFloat

end Literal

/-! ## The layout of digits -/

theorem readExponent?_exponentText (e : Int) :
    readExponent? (Binary64.exponentText e) = some e := by
  have padded (n : Nat) : digitsValue?
    (if (Nat.toDigits 10 n).length < 2 then '0' :: Nat.toDigits 10 n
      else Nat.toDigits 10 n) = some n := by
    split
    · rw [digitsValue?_of_isDigit (List.cons_ne_nil _ _)
        (List.forall_mem_cons.mpr ⟨rfl, isDigit_of_mem_toDigits⟩)]
      exact congrArg some Nat.ofDigitChars_ten_toDigits
    · exact Binary64.digitsValue?_toDigits n
  unfold Binary64.exponentText
  simp only [readExponent?, true_or, if_true]
  by_cases negative : e < 0
  · rw [if_pos negative]
    simp only [readSign, padded, if_true]
    exact congrArg some (by omega : -(e.natAbs : Int) = e)
  · rw [if_neg negative]
    simp only [readSign, padded, Bool.false_eq_true, if_false]
    exact congrArg some (by omega : (e.natAbs : Int) = e)

/-- Whether a list is digits that can be laid out: there are some, and the first one is not zero. -/
structure IsSpelling (ds : List Char) : Prop where
  all : ∀ c ∈ ds, c.isDigit = true
  nonempty : ds ≠ []
  first : ds.head? ≠ some '0'

theorem isWhole_of_head {ds : List Char} (nonempty : ds ≠ []) (first : ds.head? ≠ some '0') :
    isWhole ds = true := by
  simp [isWhole, nonempty, first]

theorem zeros_isDigit (k : Nat) : ∀ c ∈ List.replicate k '0', c.isDigit = true := by
  intro c member
  rw [List.eq_of_mem_replicate member]
  rfl

section Layout

variable {ds : List Char} (spelling : IsSpelling ds)
include spelling

/-- The digits of a fraction after a zero and zeros. -/
theorem IsSpelling.isFloat_below (k : Nat) :
    (Literal.mk ['0'] (List.replicate k '0' ++ ds) []).IsFloat 0 where
  isWhole := rfl
  whole := List.all_eq_true.mp rfl
  fraction := List.forall_mem_append.mpr ⟨zeros_isDigit k, spelling.all⟩
  exponent := rfl
  ends := by simp
  marked := .inl (List.append_ne_nil_of_right_ne_nil _ spelling.nonempty)

/-- The digits of a whole number before zeros. -/
theorem IsSpelling.isFloat_above (k : Nat) :
    (Literal.mk (ds ++ List.replicate k '0') ['0'] []).IsFloat 0 where
  isWhole := by
    apply isWhole_of_head (List.append_ne_nil_of_left_ne_nil spelling.nonempty _)
    rw [List.head?_append_of_ne_nil _ spelling.nonempty]
    exact spelling.first
  whole := List.forall_mem_append.mpr ⟨spelling.all, zeros_isDigit k⟩
  fraction := List.all_eq_true.mp rfl
  exponent := rfl
  ends := by simp
  marked := .inl (List.cons_ne_nil _ _)

/-- The digits with a point among them, or an exponent after them. -/
theorem IsSpelling.isFloat_split {whole fraction exponent : List Char}
    (split : ds = whole ++ fraction) {x : Int} (given : whole ≠ [])
    (read : readExponent? exponent = some x)
    (ends : ∀ c ∈ exponent.head?, c.isDigit = false ∧ c ≠ '.')
    (marked : fraction ≠ [] ∨ exponent ≠ []) :
    (Literal.mk whole fraction exponent).IsFloat x := by
  have all := spelling.all
  have first := spelling.first
  rw [split, List.forall_mem_append] at all
  rw [split, List.head?_append_of_ne_nil _ given] at first
  exact ⟨isWhole_of_head given first, all.1, all.2, read, ends, marked⟩

/-- The layout of digits is a literal of the decimal that they are the digits of. -/
theorem IsSpelling.exists_literal (p : Int) : ∃ (l : Literal) (x : Int),
    Binary64.layout ds p = l.text ∧ l.IsFloat x ∧ (l.digits : ℚ) * 10 ^ (x - l.fraction.length) =
      Nat.ofDigitChars 10 ds 0 * 10 ^ (p - ds.length) := by
  unfold Binary64.layout
  split
  -- positional: a fraction after zeros, a whole number before zeros, or a point among the digits
  · split
    · refine ⟨_, 0, ?_, spelling.isFloat_below (-p).toNat, ?_⟩
      · simp [Literal.text, Literal.tail, spelling.nonempty]
      · rw [Literal.digits]
        simp only [List.length_append, List.length_replicate]
        rw [show (0 : Int) - ((-p).toNat + ds.length : Nat) =
          p - ds.length by omega, Nat.ofDigitChars_append,
          Nat.ofDigitChars_append, Nat.ofDigitChars_replicate_zero]
        rfl
    · split
      · refine ⟨_, 0, ?_, spelling.isFloat_above (p.toNat - ds.length), ?_⟩
        · simp [Literal.text, Literal.tail]
        · have ten : (10 : ℚ) ≠ 0 := by norm_num
          rw [show p - (ds.length : Int) =
            (p.toNat - ds.length : Nat) by omega, zpow_natCast, Literal.digits,
            Nat.ofDigitChars_append, Nat.ofDigitChars_append, Nat.ofDigitChars_replicate_zero,
              Nat.ofDigitChars_cons,
            Nat.ofDigitChars_nil]
          simp only [Nat.sub_self, Nat.add_zero, List.length_singleton, Nat.cast_one,
            zero_sub, zpow_neg_one]
          push_cast
          ring
      · have more : ds.drop p.toNat ≠ [] := by
          rw [Ne, List.drop_eq_nil_iff]
          assumption
        have given : ds.take p.toNat ≠ [] := by
          rw [Ne, List.take_eq_nil_iff, not_or]
          exact ⟨by omega, spelling.nonempty⟩
        have whole := List.take_append_drop p.toNat ds
        have float : (Literal.mk (ds.take p.toNat) (ds.drop p.toNat) []).IsFloat 0 :=
          spelling.isFloat_split whole.symm given rfl (by simp) (.inl more)
        refine ⟨_, 0, ?_, float, ?_⟩
        · simp [Literal.text, Literal.tail, more]
        · rw [Literal.digits, whole, List.length_drop]
          congr 2
          omega
  -- with an exponent: a digit alone, or a point after the first one
  · have marked : ∀ c ∈ (Binary64.exponentText (p - 1)).head?, c.isDigit = false ∧ c ≠ '.' := by
      rintro _ ⟨⟩
      exact ⟨rfl, by decide⟩
    split
    · exact absurd rfl spelling.nonempty
    · rename_i d
      have float := spelling.isFloat_split (List.append_nil [d]).symm (List.cons_ne_nil _ _)
        (readExponent?_exponentText (p - 1)) marked (.inr (List.cons_ne_nil _ _))
      refine ⟨_, p - 1, rfl, float, ?_⟩
      simp [Literal.digits]
    · rename_i d rest other
      have more : rest ≠ [] := by
        rintro rfl
        exact other rfl
      have float := spelling.isFloat_split (List.singleton_append (x := d) (l := rest)).symm
        (List.cons_ne_nil _ _)
        (readExponent?_exponentText (p - 1)) marked (.inl more)
      refine ⟨_, p - 1, ?_, float, ?_⟩
      · simp [Literal.text, Literal.tail, more]
      · rw [Literal.digits]
        simp only [List.length_cons, List.singleton_append]
        congr 2
        omega

end Layout

/-! ## Floating-point numbers -/

/-- The digits of a number are the significant ones and zeros. -/
theorem significant_append (n : Nat) :
    ∃ k, Nat.toDigits 10 n = Binary64.significant n ++ List.replicate k '0' := by
  refine ⟨((Nat.toDigits 10 n).reverse.takeWhile (· == '0')).length, ?_⟩
  have zeros : (Nat.toDigits 10 n).reverse.takeWhile (· == '0') =
      List.replicate ((Nat.toDigits 10 n).reverse.takeWhile (· == '0')).length '0' := by
    apply List.eq_replicate_of_mem
    intro c member
    simpa using List.mem_takeWhile_imp member
  rw [Binary64.significant, ← List.reverse_replicate, ← zeros, ← List.reverse_append,
    List.takeWhile_append_dropWhile, List.reverse_reverse]

theorem significant_spelling {n : Nat} (positive : 0 < n) :
    IsSpelling (Binary64.significant n) := by
  obtain ⟨k, whole⟩ := significant_append n
  have first := toDigits_head positive
  have nonempty : Binary64.significant n ≠ [] := by
    intro none
    rw [whole, none, List.nil_append] at first
    cases k with
    | zero => exact Nat.toDigits_ne_nil (whole.trans (by rw [none]; rfl))
    | succ k => exact first rfl
  refine ⟨Binary64.isDigit_of_mem_significant, nonempty, ?_⟩
  rwa [whole, List.head?_append_of_ne_nil _ nonempty] at first

/-- A number is its significant digits with the point where its last digit is. -/
theorem significant_value (n : Nat) (p : Int) :
    (Nat.ofDigitChars 10 (Binary64.significant n) 0 : ℚ) * 10 ^
    (p - (Binary64.significant n).length) =
      n * 10 ^ (p - (Nat.toDigits 10 n).length) := by
  obtain ⟨k, whole⟩ := significant_append n
  have value : n = 10 ^ k * Nat.ofDigitChars 10 (Binary64.significant n) 0 := by
    conv_lhs => rw [← Nat.ofDigitChars_ten_toDigits (n := n), whole, Nat.ofDigitChars_append,
      Nat.ofDigitChars_replicate_zero]
  have length : ((Nat.toDigits 10 n).length : Int) = (Binary64.significant n).length + k := by
    rw [whole]
    simp
  have shift : p - (Binary64.significant n).length = k + (p - (Nat.toDigits 10 n).length) := by
    omega
  have same : (n : ℚ) = 10 ^ k * Nat.ofDigitChars 10 (Binary64.significant n) 0 := by
    exact_mod_cast value
  rw [shift, zpow_add₀ (by norm_num), zpow_natCast, same]
  ring

/-- The point of seventeen digits, of which there can be one more. -/
theorem shortest_point {d : Binary64.Decimal} (low : 10 ^ 16 ≤ d.digits)
    (high : d.digits ≤ 10 ^ 17) :
    (if Nat.pow 10 17 ≤ d.digits then d.point + 1 else d.point)
    - ((Nat.toDigits 10 d.digits).length : Int) =
      d.point - 17 := by
  rw [Nat.pow_eq]
  split
  · rename_i more
    rw [le_antisymm high more]
    change d.point + 1 - ((18 : Nat) : Int) = _
    omega
  · rename_i less
    have length {k : Nat} (positive : 0 < k) :=
      Nat.length_toDigits_le_iff (b := 10) (n := d.digits) (by decide) positive
    have atMost := (length (k := 17) (by decide)).mpr (by omega)
    have atLeast := (length (k := 16) (by decide)).not.mpr (by omega)
    omega

/-- A finite number is read from its text. -/
theorem number?_text {m : Nat} {e : Int} (canonical : Binary64.IsCanonical m e) (negative : Bool) :
    number? (Binary64.finite negative m e).text = some (.float (.finite negative m e)) := by
  rw [Binary64.text]
  rcases Nat.eq_zero_or_pos m with rfl | positive
  · obtain rfl : e = Binary64.minExponent := canonical.normal.resolve_left (by decide)
    cases negative <;> rfl
  · rw [if_neg positive.ne', Binary64.positiveText]
    have spells := Binary64.shortest_spells canonical positive
    generalize Binary64.shortest m e = d at spells
    have given : 0 < d.digits := (Nat.pow_pos (by decide)).trans_le spells.low
    obtain ⟨l, x, written, float, value⟩ := (significant_spelling given).exists_literal
      (if Nat.pow 10 17 ≤ d.digits then d.point + 1 else d.point)
    rw [significant_value, shortest_point spells.low spells.high] at value
    have digits : 0 < l.digits := by
      apply Nat.pos_of_ne_zero
      intro zero
      have power : (0 : ℚ) < d.digits * 10 ^ (d.point - 17) := by positivity
      rw [← value, zero, Nat.cast_zero, zero_mul] at power
      exact lt_irrefl _ power
    have rounds := spells.rounds
    rw [← value] at rounds
    rw [written, float.number?_text,
      Binary64.ofDecimal_eq negative canonical positive digits rounds]

end Courier.Json
