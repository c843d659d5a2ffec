import Courier.Text.Case

/-!
# Case is stable

The upper case of a text has no other upper case, nor its lower case another lower case: every image
of a character is its own image. The sequences of images are few enough to look each of them up. For
the runs it is seen from their ends: all images of a run lie outside of another one, or between its
members.
-/

namespace Courier.Text

/-- Whether a character is its own upper case. -/
def IsUpper (c : Char) : Prop := upperChar c = [c]

/-- Whether a character is its own lower case. -/
def IsLower (c : Char) : Prop := lowerChar c = [c]

instance (c : Char) : Decidable (IsUpper c) := inferInstanceAs (Decidable (upperChar c = [c]))

instance (c : Char) : Decidable (IsLower c) := inferInstanceAs (Decidable (lowerChar c = [c]))

/-! ## Runs -/

/-- A run of a mapping: its first and its last code point, the step, and the offset of the
    images. -/
abbrev CaseRun := Nat × Nat × Nat × Int

namespace CaseRun

variable (run other : CaseRun)

/-- Whether a code point is one of those that a run maps. -/
def Covers (n : Nat) : Prop := run.1 ≤ n ∧ n ≤ run.2.1 ∧ (n - run.1) % run.2.2.1 = 0

/-- The image of a code point under a run. -/
def image (n : Nat) : Nat := ((n : Int) + run.2.2.2).toNat

-- The comparisons that follow are made for every pair of runs, and the kernel has `Nat.beq` and
-- `Nat.blt` built in.
/-- Whether a run maps even code points only, or odd ones only. -/
def alternates : Bool := Nat.beq run.2.2.1 2 || Nat.beq run.1 run.2.1

/-- Whether the images under a run are letters of ASCII between two of them, or characters outside
    of ASCII. -/
def areLetters (first last : Nat) : Bool :=
  let low := run.image run.1
  let high := run.image run.2.1
  first ≤ low && high ≤ last || 128 ≤ low && high < 0xd800 || 0xe000 ≤ low && high < 0x110000

/-- Whether no image under a run is this code point, because it lies outside of them. -/
def misses (n : Nat) : Bool := Nat.blt n (run.image run.1) || Nat.blt (run.image run.2.1) n

/-- Whether no image under a run is mapped by another one: they lie apart, or the one are even and
    the others odd. -/
def avoids : Bool :=
  Nat.blt other.2.1 (run.image run.1) || Nat.blt (run.image run.2.1) other.1
    || run.alternates && other.alternates && (run.image run.1 + other.1) % 2 == 1

variable {run other} {n : Nat}

theorem image_mem (covers : run.Covers n) :
    run.image run.1 ≤ run.image n ∧ run.image n ≤ run.image run.2.1 := by
  obtain ⟨first, last, -⟩ := covers
  unfold image
  omega

theorem pos_of_areLetters {first last : Nat} (positive : 0 < first)
    (letters : run.areLetters first last = true) : 0 < run.image run.1 := by
  simp only [areLetters, Bool.or_eq_true, Bool.and_eq_true, decide_eq_true_eq] at letters
  omega

theorem Covers.mod_two (covers : run.Covers n) (alternate : run.alternates = true) :
    n % 2 = run.1 % 2 := by
  obtain ⟨first, last, step⟩ := covers
  simp only [alternates, Bool.or_eq_true, Nat.beq_eq] at alternate
  rcases alternate with two | single
  · rw [two] at step
    omega
  · omega

theorem image_ne_of_misses {m : Nat} (miss : run.misses m = true) (covers : run.Covers n) :
    run.image n ≠ m := by
  have bounds := image_mem covers
  simp only [misses, Bool.or_eq_true, Nat.blt_eq] at miss
  omega

theorem not_covers_of_avoids (low : 0 < run.image run.1) (avoid : run.avoids other = true)
    (covers : run.Covers n) : ¬ other.Covers (run.image n) := by
  intro covered
  have bounds := image_mem covers
  have between : other.1 ≤ run.image n ∧ run.image n ≤ other.2.1 := ⟨covered.1, covered.2.1⟩
  simp only [avoids, Bool.or_eq_true, Bool.and_eq_true, Nat.blt_eq, beq_iff_eq] at avoid
  rcases avoid with (before | after) | ⟨⟨alternate, alternate'⟩, odd⟩
  · omega
  · omega
  · have parity := covers.mod_two alternate
    have parity' := covered.mod_two alternate'
    have first := covers.1
    unfold image at low odd parity'
    omega

end CaseRun

theorem mapRuns?_eq_none {runs : List CaseRun} {n : Nat}
    (h : ∀ run ∈ runs, ¬ run.Covers n) : mapRuns? runs n = none := by
  apply List.findSome?_eq_none_iff.mpr
  intro run member
  exact if_neg (h run member)

theorem mapRuns?_eq_some {runs : List CaseRun} {n m : Nat} (h : mapRuns? runs n = some m) :
    ∃ run ∈ runs, run.Covers n ∧ m = run.image n := by
  obtain ⟨run, member, mapped⟩ := List.exists_of_findSome?_eq_some h
  simp only [Option.ite_none_right_eq_some, Option.some.injEq] at mapped
  exact ⟨run, member, mapped.1, mapped.2.symm⟩

/-! ## The tables -/

section

variable {runs : List CaseRun} {sequences : List (Nat × List Nat)} {first last : Nat}

/-- Whether no image under the runs of a mapping is mapped to another character. -/
def AreStable (runs : List CaseRun) (sequences : List (Nat × List Nat)) (first last : Nat) : Bool :=
  runs.all fun run => run.areLetters first last && sequences.all (run.misses ·.1) &&
    runs.all run.avoids

/-- The image of a code point under a run is a letter of ASCII, or its own image. -/
theorem image_cases (stable : AreStable runs sequences first last = true) (positive : 0 < first)
    {run : CaseRun} (member : run ∈ runs) {n : Nat} (covers : run.Covers n) :
    (first ≤ run.image n ∧ run.image n ≤ last) ∨
      128 ≤ (Char.ofNat (run.image n)).toNat ∧
        mapWide runs sequences (Char.ofNat (run.image n)) = [Char.ofNat (run.image n)] := by
  have checked := List.all_eq_true.mp stable run member
  simp only [Bool.and_eq_true, List.all_eq_true] at checked
  obtain ⟨⟨letters, missing⟩, avoiding⟩ := checked
  have bounds := CaseRun.image_mem covers
  have low := CaseRun.pos_of_areLetters positive letters
  have unlisted : sequences.lookup (run.image n) = none := by
    apply List.lookup_eq_none_iff.mpr
    intro entry listed
    simpa using CaseRun.image_ne_of_misses (missing entry listed) covers
  have unmapped : mapRuns? runs (run.image n) = none :=
    mapRuns?_eq_none fun other member =>
      CaseRun.not_covers_of_avoids low (avoiding other member) covers
  simp only [CaseRun.areLetters, Bool.or_eq_true, Bool.and_eq_true, decide_eq_true_eq] at letters
  by_cases ascii : first ≤ run.image n ∧ run.image n ≤ last
  · exact .inl ascii
  · have wide : 128 ≤ run.image n := by omega
    have valid : (run.image n).isValidChar := by
      unfold Nat.isValidChar
      omega
    have code : (Char.ofNat (run.image n)).toNat = run.image n := by
      rw [Char.ofNat, dif_pos valid]
      rfl
    exact .inr ⟨by rw [code]; exact wide, by simp [mapWide, code, unlisted, unmapped]⟩

/-- What a character outside of ASCII is mapped to is a letter of ASCII, its own image, or one of
    the sequences. -/
theorem mapWide_cases (stable : AreStable runs sequences first last = true) (positive : 0 < first)
    {c d : Char} (wide : 128 ≤ c.toNat) (image : d ∈ mapWide runs sequences c) :
    (∃ n, first ≤ n ∧ n ≤ last ∧ d = Char.ofNat n) ∨
      128 ≤ d.toNat ∧ mapWide runs sequences d = [d] ∨
        ∃ entry ∈ sequences, ∃ n ∈ entry.2, d = Char.ofNat n := by
  cases listed : sequences.lookup c.toNat with
  | some sequence =>
    obtain ⟨before, after, entries, -⟩ := List.lookup_eq_some_iff.mp listed
    have member : (c.toNat, sequence) ∈ sequences := by simp [entries]
    simp only [mapWide, listed, List.mem_map] at image
    obtain ⟨n, among, rfl⟩ := image
    exact .inr (.inr ⟨_, member, n, among, rfl⟩)
  | none =>
    cases mapped : mapRuns? runs c.toNat with
    | some m =>
      obtain ⟨run, member, covers, rfl⟩ := mapRuns?_eq_some mapped
      simp only [mapWide, listed, mapped, List.mem_singleton] at image
      subst image
      rcases image_cases stable positive member covers with ⟨low, high⟩ | own
      · exact .inl ⟨_, low, high, rfl⟩
      · exact .inr (.inl own)
    | none =>
      have own : mapWide runs sequences c = [c] := by simp [mapWide, listed, mapped]
      rw [own, List.mem_singleton] at image
      subst image
      exact .inr (.inl ⟨wide, own⟩)

end

theorem upperRuns_stable : AreStable upperRuns upperSequences 65 90 = true := by decide +kernel

theorem lowerRuns_stable : AreStable lowerRuns lowerSequences 97 122 = true := by decide +kernel

theorem upperSequences_checked :
    ∀ entry ∈ upperSequences, ∀ n ∈ entry.2, IsUpper (Char.ofNat n) := by
  decide +kernel

theorem lowerSequences_checked :
    ∀ entry ∈ lowerSequences, ∀ n ∈ entry.2, IsLower (Char.ofNat n) := by
  decide +kernel

theorem isUpper_ascii : ∀ n < 128, IsUpper (Char.ofNat n).toUpper := by decide

theorem isLower_ascii : ∀ n < 128, IsLower (Char.ofNat n).toLower := by decide

theorem isUpper_capital : ∀ n < 91, 65 ≤ n → IsUpper (Char.ofNat n) := by decide

theorem isLower_small : ∀ n < 123, 97 ≤ n → IsLower (Char.ofNat n) := by decide

theorem upperChar_isUpper (c : Char) : ∀ d ∈ upperChar c, IsUpper d := by
  intro d image
  by_cases ascii : c.toNat < 128
  · have stable := isUpper_ascii c.toNat ascii
    rw [Char.ofNat_toNat] at stable
    rw [upperChar, if_pos ascii, List.mem_singleton] at image
    exact image ▸ stable
  · rw [upperChar, if_neg ascii] at image
    rcases mapWide_cases upperRuns_stable (by decide) (Nat.not_lt.mp ascii) image with
      ⟨n, low, high, rfl⟩ | ⟨wide, own⟩ | ⟨entry, member, n, among, rfl⟩
    · exact isUpper_capital n (Nat.lt_succ_of_le high) low
    · rwa [IsUpper, upperChar, if_neg (Nat.not_lt.mpr wide)]
    · exact upperSequences_checked entry member n among

theorem lowerChar_isLower (c : Char) : ∀ d ∈ lowerChar c, IsLower d := by
  intro d image
  by_cases ascii : c.toNat < 128
  · have stable := isLower_ascii c.toNat ascii
    rw [Char.ofNat_toNat] at stable
    rw [lowerChar, if_pos ascii, List.mem_singleton] at image
    exact image ▸ stable
  · rw [lowerChar, if_neg ascii] at image
    rcases mapWide_cases lowerRuns_stable (by decide) (Nat.not_lt.mp ascii) image with
      ⟨n, low, high, rfl⟩ | ⟨wide, own⟩ | ⟨entry, member, n, among, rfl⟩
    · exact isLower_small n (Nat.lt_succ_of_le high) low
    · rwa [IsLower, lowerChar, if_neg (Nat.not_lt.mpr wide)]
    · exact lowerSequences_checked entry member n among

theorem flatMap_upperChar {cs : List Char} (stable : ∀ c ∈ cs, IsUpper c) :
    cs.flatMap upperChar = cs := by
  induction cs with
  | nil => rfl
  | cons c rest ih =>
    obtain ⟨own, others⟩ := List.forall_mem_cons.mp stable
    rw [List.flatMap_cons, own, ih others]
    rfl

/-- The upper case of a text is its own upper case. -/
theorem upper_upper (s : String) : upper (upper s) = upper s := by
  have stable : ∀ c ∈ s.toList.flatMap upperChar, IsUpper c := by
    intro d member
    obtain ⟨c, -, image⟩ := List.mem_flatMap.mp member
    exact upperChar_isUpper c d image
  simp only [upper, String.toList_ofList, flatMap_upperChar stable]

theorem lowerAfter_isLower (cs before : List Char) : ∀ d ∈ lowerAfter before cs, IsLower d := by
  induction cs generalizing before with
  | nil => simp [lowerAfter]
  | cons c rest ih =>
    intro d member
    rcases List.mem_append.mp member with image | later
    · split at image
      · rw [List.mem_singleton] at image
        subst image
        split <;> decide
      · exact lowerChar_isLower c d image
    · exact ih (c :: before) d later

/-- A text of characters that are their own lower case stays as it is: a capital sigma is none of
    them. -/
theorem lowerAfter_of_isLower {cs : List Char} (stable : ∀ c ∈ cs, IsLower c) (before : List Char) :
    lowerAfter before cs = cs := by
  induction cs generalizing before with
  | nil => rfl
  | cons c rest ih =>
    obtain ⟨own, others⟩ := List.forall_mem_cons.mp stable
    have other : c ≠ 'Σ' := by
      rintro rfl
      exact absurd own (by decide)
    rw [lowerAfter, if_neg other, own, ih others]
    rfl

/-- The lower case of a text is its own lower case. -/
theorem lower_lower (s : String) : lower (lower s) = lower s := by
  simp only [lower, String.toList_ofList, lowerAfter_of_isLower (lowerAfter_isLower s.toList [])]

end Courier.Text
