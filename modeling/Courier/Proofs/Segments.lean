import Courier.Proofs.Percent
import Courier.Url.Join

/-!
# Segments of paths

A path is split into segments and put together from them. What holds of a slash and of the
characters of the segments holds of those of the path, whichever segments are kept on the way. A
path whose dot segments have been removed has none, and encoding it does not bring any back
(`Dotless.encode`).
-/

namespace Courier.Url

/-! ## Pieces -/

namespace Host

theorem splitOn_ne_nil (separator : Char) (cs : List Char) : splitOn separator cs ≠ [] := by
  cases cs with
  | nil => simp [splitOn]
  | cons c cs =>
    unfold splitOn
    rw [List.foldr_cons]
    split
    · simp
    · split <;> simp

theorem splitOn_cons (separator c : Char) (cs : List Char) :
    splitOn separator (c :: cs) =
      if c = separator then [] :: splitOn separator cs
      else (splitOn separator cs).modifyHead (c :: ·) := by
  have some := splitOn_ne_nil separator cs
  unfold splitOn at some ⊢
  rw [List.foldr_cons]
  split
  · rfl
  · generalize cs.foldr _ [[]] = pieces at some ⊢
    cases pieces with
    | nil => exact absurd rfl some
    | cons piece pieces => rfl

theorem splitOn_eq (separator : Char) (cs : List Char) :
    splitOn separator cs = cs.splitOn separator := by
  induction cs with
  | nil => rfl
  | cons c cs ih =>
    rw [splitOn_cons, ih, List.splitOn, List.splitOn, List.splitOnP_cons_eq_if_modifyHead]
    simp only [beq_iff_eq]

/-- A text without separators belongs to the first piece of what follows it. -/
theorem splitOn_append {separator : Char} {cs : List Char} (clear : separator ∉ cs)
    (rest : List Char) :
    splitOn separator (cs ++ rest) = (splitOn separator rest).modifyHead (cs ++ ·) := by
  induction cs with
  | nil => cases pieces : splitOn separator rest <;> simp [pieces]
  | cons c cs ih =>
    rw [List.mem_cons, not_or] at clear
    rw [List.cons_append, splitOn_cons, if_neg (Ne.symm clear.1), ih clear.2,
      List.modifyHead_modifyHead]
    rfl

theorem not_mem_of_piece {separator : Char} {cs : List Char} :
    ∀ piece ∈ splitOn separator cs, separator ∉ piece := by
  induction cs with
  | nil => simp [splitOn]
  | cons c cs ih =>
    rw [splitOn_cons]
    split
    · simpa using ih
    · rename_i other
      cases pieces : splitOn separator cs with
      | nil => simp
      | cons piece pieces =>
        rw [pieces, List.forall_mem_cons] at ih
        rw [List.modifyHead_cons, List.forall_mem_cons]
        exact ⟨by simpa [Ne.symm other] using ih.1, ih.2⟩

end Host

/-- What every step keeps of its output and gives to what it adds holds of all output. -/
theorem foldl_forall {α : Type} {R : α → Prop} {step : List α → α → List α} {items : List α}
    (keeps : ∀ output, (∀ kept ∈ output, R kept) → ∀ item ∈ items,
      ∀ kept ∈ step output item, R kept) :
    ∀ kept ∈ items.foldl step [], R kept :=
  List.foldlRecOn (motive := fun output => ∀ kept ∈ output, R kept) items step (by simp) keeps

section Segments

variable (P : Char → Prop)

theorem splitOn_forall {separator : Char} {cs : List Char} (all : ∀ c ∈ cs, P c) :
    ∀ piece ∈ Host.splitOn separator cs, ∀ c ∈ piece, P c := by
  induction cs with
  | nil => simp [Host.splitOn]
  | cons c cs ih =>
    rw [List.forall_mem_cons] at all
    have rest := ih all.2
    rw [Host.splitOn_cons]
    split
    · simpa using rest
    · cases pieces : Host.splitOn separator cs with
      | nil => simp
      | cons piece pieces =>
        rw [pieces, List.forall_mem_cons] at rest
        rw [List.modifyHead_cons, List.forall_mem_cons, List.forall_mem_cons]
        exact ⟨⟨all.1, rest.1⟩, rest.2⟩

theorem intercalate_forall {separator : Char} (own : P separator) {pieces : List (List Char)}
    (all : ∀ piece ∈ pieces, ∀ c ∈ piece, P c) : ∀ c ∈ [separator].intercalate pieces, P c := by
  induction pieces with
  | nil => simp
  | cons piece rest ih =>
    rw [List.forall_mem_cons] at all
    cases rest with
    | nil => simpa using all.1
    | cons next rest =>
      rw [List.intercalate_cons_cons, List.forall_mem_append, List.forall_mem_append,
        List.forall_mem_singleton]
      exact ⟨⟨all.1, own⟩, ih all.2⟩

/-- What holds of the separator and of every character of the pieces holds of every character of the
    text. -/
theorem forall_of_splitOn {separator : Char} (own : P separator) {cs : List Char}
    (pieces : ∀ piece ∈ Host.splitOn separator cs, ∀ c ∈ piece, P c) : ∀ c ∈ cs, P c := by
  have whole := intercalate_forall P own pieces
  rwa [Host.splitOn_eq, List.intercalate_splitOn] at whole

variable (slash : P '/')

include slash

theorem followSegments_forall {segments : List (List Char)}
    (all : ∀ segment ∈ segments, ∀ c ∈ segment, P c) :
    ∀ c ∈ followSegments segments, P c := by
  have followed : ∀ segment ∈ segments.foldl (fun output segment =>
      if segment = ['.', '.'] then output.dropLast
      else if segment = ['.'] then output
      else output ++ [segment]) [], ∀ c ∈ segment, P c := by
    apply foldl_forall
    intro output kept segment member
    split
    · exact fun segment member => kept segment (List.dropLast_subset _ member)
    · split
      · exact kept
      · rw [List.forall_mem_append, List.forall_mem_singleton]
        exact ⟨kept, all segment member⟩
  unfold followSegments
  simp only
  generalize segments.foldl _ [] = output at followed ⊢
  generalize ended : (if segments.getLast? = some ['.'] ∨ segments.getLast? = some ['.', '.'] then
    output ++ [[]] else output) = whole
  have kept : ∀ segment ∈ whole, ∀ c ∈ segment, P c := by
    rw [← ended]
    split
    · simpa [or_imp, forall_and] using followed
    · exact followed
  split
  · simpa using slash
  · exact intercalate_forall P slash kept

omit slash in
theorem mergeSegments_forall {base path : List Char} (all : ∀ c ∈ base, P c)
    (all' : ∀ c ∈ path, P c) :
    ∀ segment ∈ mergeSegments base path, ∀ c ∈ segment, P c := by
  have segments : ∀ segment ∈ (if (Host.splitOn '/' base).getLast? =
    some [] then Host.splitOn '/' base
      else (Host.splitOn '/' base).dropLast) ++ Host.splitOn '/' path, ∀ c ∈ segment, P c := by
    intro segment member
    rcases List.mem_append.mp member with kept | own
    · split at kept
      · exact splitOn_forall P all segment kept
      · exact splitOn_forall P all segment (List.dropLast_subset _ kept)
    · exact splitOn_forall P all' segment own
  unfold mergeSegments
  simp only
  split
  · simp
  · rename_i first rest given
    rw [given, List.forall_mem_cons] at segments
    intro segment member
    rcases List.mem_append.mp member with inner | last
    · rcases List.mem_cons.mp inner with rfl | inner
      · exact segments.1
      · exact segments.2 segment (List.dropLast_subset _ (List.mem_filter.mp inner).1)
    · exact segments.2 segment (List.mem_of_getLast? (Option.mem_toList.mp last))

end Segments

/-! ## Dot segments -/

/-- Whether a segment says to stay or to go back. -/
def IsDots (segment : List Char) : Prop := segment = ['.'] ∨ segment = ['.', '.']

/-- A path without dot segments. -/
def Dotless (path : List Char) : Prop := ∀ segment ∈ Host.splitOn '/' path, ¬ IsDots segment

theorem removeDots_of_dotless {path : List Char} (dotless : Dotless path) :
    removeDots path = path := by
  have none : (Host.splitOn '/' path).any (fun s => s == ['.'] || s == ['.', '.']) = false := by
    rw [List.any_eq_false]
    intro segment member
    simpa [IsDots] using dotless segment member
  simp only [removeDots, none, Bool.false_eq_true, if_false]

theorem dotless_removeDots (path : List Char) : Dotless (removeDots path) := by
  unfold removeDots
  simp only
  split
  · have followed : ∀ segment ∈ resolveDots (Host.splitOn '/' path), ¬ IsDots segment ∧
      '/' ∉ segment := by
      apply foldl_forall
      intro output kept segment member
      split
      · exact kept
      · rename_i here
        split
        · split
          · exact kept
          · exact fun segment member => kept segment (List.dropLast_subset _ member)
        · rename_i back
          rw [List.forall_mem_append, List.forall_mem_singleton]
          exact ⟨kept, by simp [IsDots, here, back], Host.not_mem_of_piece segment member⟩
    generalize resolveDots (Host.splitOn '/' path) = segments at followed
    unfold Dotless joinSegments
    by_cases none : segments = []
    · simp [none, Host.splitOn, IsDots]
    · rw [Host.splitOn_eq, List.splitOn_intercalate '/'
        (fun segment member => (followed segment member).2) none]
      exact fun segment member => (followed segment member).1
  · rename_i none
    intro segment member dots
    apply none
    rw [List.any_eq_true]
    exact ⟨segment, member, by simpa [IsDots] using dots⟩

/-- The segments of an encoded path are its encoded segments. -/
theorem splitOn_encode {keep : Char → Bool} (slash : keep '/' = true) (path : List Char) :
    Host.splitOn '/' (Percent.encode keep path) = (Host.splitOn '/' path).map
      (Percent.encode keep) := by
  induction path with
  | nil => rfl
  | cons c path ih =>
    rw [Host.splitOn_cons]
    split
    · rename_i same
      rw [same, Percent.encode_cons_of_kept slash, Host.splitOn_cons, if_pos rfl, ih]
      rfl
    · rename_i other
      have clear : '/' ∉ Percent.encode keep [c] := by
        rw [Percent.encode_cons, Percent.encode_nil, List.append_nil]
        split
        · simpa using Ne.symm other
        · exact Percent.not_mem_escapes (by decide) (by decide) _
      rw [← List.singleton_append, Percent.encode_append, Host.splitOn_append clear, ih]
      cases Host.splitOn '/' path with
      | nil => rfl
      | cons piece pieces => simp [← Percent.encode_append]

/-- Encoding does not bring dot segments back. -/
theorem Dotless.encode {path : List Char} (dotless : Dotless path) :
    Dotless (Percent.encode keepsInPath path) := by
  have slash : keepsInPath '/' = true := by decide
  unfold Dotless
  rw [splitOn_encode slash, List.forall_mem_map]
  intro segment member dots
  have same : Percent.encode keepsInPath segment = segment := by
    apply Percent.encode_of_unmarked
    rcases dots with here | back
    · simp [here]
    · simp [back]
  rw [same] at dots
  exact dotless segment member dots

end Courier.Url
