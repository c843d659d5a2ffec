import Courier.Proofs.Decimal
import Courier.Proofs.Percent
import Courier.Url.Basic
import Courier.Url.Port
import Mathlib.Algebra.Group.Nat.Defs
import Mathlib.Data.List.Basic

/-!
# The texts of ports

A port is written in decimal digits, with a minus sign if it is negative. It is read from its text
again if a text can give it at all (`integer?_portText`): reading takes no more than 4300 digits.
-/

namespace Courier

namespace Text

/-! ## What an integer read from a text is below -/

theorem digitValue?_lt {c : Char} {d : Nat} (digit : digitValue? c = some d) : d < 10 := by
  unfold digitValue? at digit
  split at digit
  · rename_i ascii
    have below : c.toNat ≤ 57 := (Char.isDigit_iff_toNat.mp ascii).2
    have zero : '0'.toNat = 48 := rfl
    rw [Option.some.injEq] at digit
    omega
  · obtain ⟨first, -, within⟩ := List.exists_of_findSome?_eq_some digit
    split at within
    · rw [Option.some.injEq] at within
      omega
    · cases within

/-- A digit in front of digits gives one more digit. -/
theorem digits?_step {c : Char} {others : Option (List Nat)} {ds : List Nat}
    (digits : ((digitValue? c).bind fun d => others.map (d :: ·)) = some ds) :
    ∃ d rest, digitValue? c = some d ∧ others = some rest ∧ ds = d :: rest := by
  obtain ⟨d, digit, digits⟩ := Option.bind_eq_some_iff.mp digits
  obtain ⟨rest, given, rfl⟩ := Option.map_eq_some_iff.mp digits
  exact ⟨d, rest, digit, given, rfl⟩

theorem digits?_some {cs : List Char} :
    ∀ ds, digits? cs = some ds → ds ≠ [] ∧ ∀ d ∈ ds, d < 10 := by
  have step {c : Char} {rest : List Char} {ds : List Nat}
      (below : ∀ ds, digits? rest = some ds → ds ≠ [] ∧ ∀ d ∈ ds, d < 10)
      (digits : ((digitValue? c).bind fun d => (digits? rest).map (d :: ·)) = some ds) :
      ds ≠ [] ∧ ∀ d ∈ ds, d < 10 := by
    obtain ⟨d, ds, digit, given, rfl⟩ := digits?_step digits
    exact ⟨List.cons_ne_nil _ _, List.forall_mem_cons.mpr
      ⟨digitValue?_lt digit, (below ds given).2⟩⟩
  induction cs using digits?.induct with
  | case1 => simp [digits?]
  | case2 c =>
    intro ds digits
    obtain ⟨d, digit, rfl⟩ := Option.map_eq_some_iff.mp digits
    simpa using digitValue?_lt digit
  | case3 c rest ih => exact fun ds digits => step ih digits
  | case4 c rest single underscore ih =>
    intro ds digits
    rw [digits?] at digits
    · exact step ih digits
    · exact single
    · exact underscore

theorem foldl_digits_lt {ds : List Nat} (digits : ∀ d ∈ ds, d < 10) (value : Nat) :
    ds.foldl (fun value d => 10 * value + d) value < (value + 1) * 10 ^ ds.length := by
  induction ds generalizing value with
  | nil => simp
  | cons d ds ih =>
    rw [List.forall_mem_cons] at digits
    rw [List.foldl_cons, List.length_cons, Nat.pow_succ']
    calc _ < (10 * value + d + 1) * 10 ^ ds.length := ih digits.2 _
      _ ≤ ((value + 1) * 10) * 10 ^ ds.length := Nat.mul_le_mul_right _ (by omega)
      _ = _ := Nat.mul_assoc ..

theorem natural?_digits {cs : List Char} {n : Nat} (read : natural? cs = some n) :
    (Nat.toDigits 10 n).length ≤ 4300 := by
  obtain ⟨ds, digits, value⟩ := Option.bind_eq_some_iff.mp read
  split at value
  · rename_i short
    rw [Option.some.injEq] at value
    obtain ⟨some, below⟩ := digits?_some ds digits
    have bound := foldl_digits_lt below 0
    rw [value, Nat.zero_add, Nat.one_mul] at bound
    have length := (Nat.length_toDigits_le_iff (by decide) (List.length_pos_iff.mpr some)).mpr bound
    omega
  · cases value

/-- An integer read from a text is a number read from it, or the opposite of one, and no more than a
    sign stands before that. -/
theorem integer?_cases {cs : List Char} {n : Int} (read : integer? cs = some n) :
    ∃ digits value, natural? digits = some value ∧ (n = value ∨ n = -value) ∧
      ∀ c ∈ strip cs, c = '-' ∨ c = '+' ∨ c ∈ digits := by
  unfold integer? at read
  split at read
  · rename_i digits text
    cases natural : natural? digits with
    | none => simp [natural] at read
    | some value =>
      exact ⟨digits, value, natural,
        .inr (by simpa [natural] using read.symm), by rw [text]; simp +contextual⟩
  · rename_i digits text
    cases natural : natural? digits with
    | none => simp [natural] at read
    | some value =>
      exact ⟨digits, value, natural,
        .inl (by simpa [natural] using read.symm), by rw [text]; simp +contextual⟩
  · cases natural : natural? (strip cs) with
    | none => simp [natural] at read
    | some value =>
      exact ⟨strip cs, value, natural, .inl (by simpa [natural] using read.symm), fun c member =>
        .inr (.inr member)⟩

theorem integer?_digits {cs : List Char} {n : Int} (read : integer? cs = some n) :
    (Nat.toDigits 10 n.natAbs).length ≤ 4300 := by
  obtain ⟨digits, value, natural, rfl | rfl, -⟩ := integer?_cases read
  · exact natural?_digits natural
  · rw [Int.natAbs_neg]
    exact natural?_digits natural

/-! ## What stands in the text of an integer -/

theorem mem_dropWhile {p : Char → Bool} {c : Char} {cs : List Char} (member : c ∈ cs)
    (fails : p c = false) :
    c ∈ cs.dropWhile p := by
  rw [← List.takeWhile_append_dropWhile (p := p) (l := cs), List.mem_append] at member
  rcases member with taken | kept
  · rw [List.mem_takeWhile_imp taken] at fails
    cases fails
  · exact kept

theorem mem_strip {c : Char} {cs : List Char} (member : c ∈ cs) (visible : isBlank c = false) :
    c ∈ strip cs := by
  unfold strip
  rw [List.mem_reverse]
  exact mem_dropWhile (List.mem_reverse.mpr (mem_dropWhile member visible)) visible

theorem mem_of_digits? {cs : List Char} :
    ∀ ds, digits? cs = some ds → ∀ c ∈ cs, c = '_' ∨ (digitValue? c).isSome = true := by
  induction cs using digits?.induct with
  | case1 => simp
  | case2 c =>
    intro ds digits
    obtain ⟨d, digit, -⟩ := Option.map_eq_some_iff.mp digits
    simp [digit]
  | case3 c rest ih =>
    intro ds digits
    obtain ⟨d, ds, digit, given, -⟩ := digits?_step digits
    simpa [digit] using ih ds given
  | case4 c rest single underscore ih =>
    intro ds digits
    rw [digits?] at digits
    · obtain ⟨d, ds, digit, given, -⟩ := digits?_step digits
      simpa [digit] using ih ds given
    · exact single
    · exact underscore

/-- An integer is read from no text with a character that is none of white space, signs, underscores
    and digits. -/
theorem not_mem_of_integer? {cs : List Char} {n : Int} (read : integer? cs = some n) {c : Char}
    (visible : isBlank c = false) (digit : digitValue? c = none)
    (other : c ≠ '-' ∧ c ≠ '+' ∧ c ≠ '_') : c ∉ cs := by
  intro member
  obtain ⟨digits, value, natural, -, chars⟩ := integer?_cases read
  obtain ⟨ds, digits', -⟩ := Option.bind_eq_some_iff.mp natural
  rcases chars c (mem_strip member visible) with minus | plus | within
  · exact other.1 minus
  · exact other.2.1 plus
  · rcases mem_of_digits? ds digits' c within with underscore | some
    · exact other.2.2 underscore
    · rw [digit] at some
      cases some

/-! ## Reading decimal digits -/

theorem digits?_of_isDigit {cs : List Char} (some : cs ≠ []) (digits : ∀ c ∈ cs, c.isDigit = true) :
    digits? cs = Option.some (cs.map fun c => c.toNat - '0'.toNat) := by
  have value : ∀ c : Char, c.isDigit = true → digitValue? c = Option.some (c.toNat - '0'.toNat) :=
    fun c digit => by rw [digitValue?, if_pos digit]
  induction cs with
  | nil => exact absurd rfl some
  | cons c rest ih =>
    rw [List.forall_mem_cons] at digits
    cases rest with
    | nil => simp [digits?, value c digits.1]
    | cons next rest =>
      have plain : next ≠ '_' := by
        rintro rfl
        exact absurd (digits.2 '_' List.mem_cons_self) (by decide)
      rw [digits?, value c digits.1, ih (List.cons_ne_nil _ _) digits.2]
      · rfl
      · simp
      · simpa using plain

theorem strip_of_not_isBlank {cs : List Char} (clear : ∀ c ∈ cs, isBlank c = false) :
    strip cs = cs := by
  have stays : ∀ ds : List Char, (∀ c ∈ ds, isBlank c = false) → ds.dropWhile isBlank = ds := by
    intro ds clear
    cases ds with
    | nil => rfl
    | cons c rest => simp [clear c List.mem_cons_self]
  rw [strip, stays cs clear, stays cs.reverse (by simpa using clear), List.reverse_reverse]

theorem not_isBlank_of_isDigit {c : Char} (digit : c.isDigit = true) : isBlank c = false := by
  obtain ⟨above, below⟩ : 48 ≤ c.toNat ∧ c.toNat ≤ 57 := Char.isDigit_iff_toNat.mp digit
  rw [isBlank, List.contains_eq_mem, decide_eq_false_iff_not]
  unfold blanks
  intro member
  simp only [List.mem_cons, List.not_mem_nil, or_false] at member
  omega

theorem natural?_toDigits {n : Nat} (short : (Nat.toDigits 10 n).length ≤ 4300) :
    natural? (Nat.toDigits 10 n) = some n := by
  have digits := digits?_of_isDigit Nat.toDigits_ne_nil (isDigit_of_mem_toDigits (n := n))
  rw [natural?, digits, Option.bind_some, List.length_map, if_pos short, List.foldl_map,
    ← Nat.ofDigitChars_eq_foldl, Nat.ofDigitChars_ten_toDigits]

end Text

namespace Url

theorem portText_eq (port : Int) :
    portText port =
      if 0 ≤ port then Nat.toDigits 10 port.toNat else '-' :: Nat.toDigits 10 (-port).toNat :=
  toList_toString port

theorem mem_portText {port : Int} : ∀ c ∈ portText port, c.isDigit = true ∨ c = '-' := mem_toString

theorem portText_ne_nil (port : Int) : portText port ≠ [] := by
  rw [portText_eq]
  split
  · exact Nat.toDigits_ne_nil
  · exact List.cons_ne_nil _ _

/-- A port that is not too long is read from its text. -/
theorem integer?_portText_of_short {port : Int}
    (short : (Nat.toDigits 10 port.natAbs).length ≤ 4300) :
    Text.integer? (portText port) = some port := by
  have natural := Text.natural?_toDigits short
  have clear : ∀ c ∈ portText port, Text.isBlank c = false := by
    intro c member
    rcases mem_portText c member with digit | rfl
    · exact Text.not_isBlank_of_isDigit digit
    · decide
  rw [Text.integer?, Text.strip_of_not_isBlank clear, portText_eq]
  by_cases sign : 0 ≤ port
  · have own : port.natAbs = port.toNat := by omega
    have first : ∀ c ∈ (Nat.toDigits 10 port.toNat).head?, c.isDigit = true :=
      fun c first => isDigit_of_mem_toDigits c (List.mem_of_mem_head? first)
    rw [own] at natural
    rw [if_pos sign]
    split
    · rename_i minus
      rw [minus] at first
      exact absurd (first '-' rfl) (by decide)
    · rename_i plus
      rw [plus] at first
      exact absurd (first '+' rfl) (by decide)
    · simp [natural, Int.toNat_of_nonneg sign]
  · have own : port.natAbs = (-port).toNat := by omega
    rw [own] at natural
    rw [if_neg sign]
    simp only [natural, Option.bind_eq_bind, Option.bind_some, Option.pure_def, Option.map_some,
      Option.some.injEq]
    omega

/-- A port that a text gives is read from its own text again. -/
theorem integer?_portText {cs : List Char} {port : Int} (read : Text.integer? cs = some port) :
    Text.integer? (portText port) = some port :=
  integer?_portText_of_short (Text.integer?_digits read)

end Url

end Courier
