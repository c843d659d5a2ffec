import Courier.Proofs.Spans
import Courier.Text.Percent

/-!
# Encoded components

The characters that stand for themselves in a component include those that escapes are written with
(`Percent.Keeps`). So an encoded component consists of characters that stand for themselves.
-/

namespace Courier.Percent

/-- Whether the characters of escapes stand for themselves. -/
structure Keeps (keep : Char → Bool) : Prop where
  mark : keep '%' = true
  digit : ∀ n < 16, keep (upperHexDigit n) = true

variable {keep : Char → Bool}

@[simp] theorem encode_nil : encode keep [] = [] := rfl

@[simp] theorem encode_append (cs ds : List Char) :
    encode keep (cs ++ ds) = encode keep cs ++ encode keep ds := List.flatMap_append

theorem encode_cons (c : Char) (cs : List Char) :
    encode keep (c :: cs) =
      (if keep c then [c] else (String.utf8EncodeChar c).flatMap escape) ++ encode keep cs := rfl

theorem encode_cons_of_kept {c : Char} (kept : keep c = true) (cs : List Char) :
    encode keep (c :: cs) = c :: encode keep cs := by
  rw [encode_cons, if_pos kept, List.singleton_append]

theorem encode_of_kept {cs : List Char} (kept : ∀ c ∈ cs, keep c = true) : encode keep cs = cs := by
  induction cs with
  | nil => rfl
  | cons c cs ih =>
    rw [encode_cons_of_kept (kept c List.mem_cons_self), ih fun d member =>
      kept d (List.mem_cons_of_mem c member)]

theorem Keeps.escape (keeps : Keeps keep) (b : UInt8) : ∀ c ∈ Percent.escape b, keep c = true := by
  have bound := b.toNat_lt
  simp only [Percent.escape, List.forall_mem_cons]
  exact ⟨keeps.mark, keeps.digit _ (by omega), keeps.digit _ (by omega), by simp⟩

/-- An encoded component consists of characters that stand for themselves. -/
theorem Keeps.encode (keeps : Keeps keep) (cs : List Char) :
    ∀ c ∈ Percent.encode keep cs, keep c = true := by
  intro c member
  obtain ⟨d, -, written⟩ := List.mem_flatMap.mp member
  split at written
  · rename_i kept
    rwa [List.mem_singleton.mp written]
  · obtain ⟨b, -, escaped⟩ := List.mem_flatMap.mp written
    exact keeps.escape b c escaped

/-- The escapes of a character start with a percent sign. -/
theorem exists_escapes (c : Char) :
    ∃ rest, (String.utf8EncodeChar c).flatMap escape = '%' :: rest := by
  cases octets : String.utf8EncodeChar c with
  | nil => exact absurd octets String.utf8EncodeChar_ne_nil
  | cons b rest => exact ⟨_, rfl⟩

@[simp] theorem encode_eq_nil_iff {cs : List Char} : encode keep cs = [] ↔ cs = [] := by
  cases cs with
  | nil => simp
  | cons c cs =>
    obtain ⟨rest, escapes⟩ := exists_escapes c
    rw [encode_cons, escapes]
    split <;> simp

/-- Escapes are written with a percent sign and hexadecimal digits only. -/
theorem not_mem_escapes {c : Char} (mark : c ≠ '%') (digit : ∀ n < 16, upperHexDigit n ≠ c)
    (octets : List UInt8) :
    c ∉ octets.flatMap escape := by
  intro member
  obtain ⟨b, -, written⟩ := List.mem_flatMap.mp member
  have bound := b.toNat_lt
  simp only [escape, List.mem_cons, List.not_mem_nil, or_false] at written
  rcases written with rfl | high | low
  · exact mark rfl
  · exact digit _ (by omega) high.symm
  · exact digit _ (by omega) low.symm

/-- A component without escapes once it is encoded was encoded already. -/
theorem encode_of_unmarked {cs : List Char} (unmarked : '%' ∉ encode keep cs) :
    encode keep cs = cs := by
  apply encode_of_kept
  intro c member
  cases kept : keep c with
  | true => rfl
  | false =>
    obtain ⟨rest, escapes⟩ := exists_escapes c
    refine absurd (List.mem_flatMap.mpr ⟨c, member, ?_⟩) unmarked
    simp [kept, escapes]

/-- A text is kept up to its first character that does not stand for itself, and escapes follow. -/
theorem encode_eq_append (keep : Char → Bool) (cs : List Char) :
    ∃ rest, encode keep cs = cs.takeWhile keep ++ rest ∧ ∀ c ∈ rest.head?, c = '%' := by
  induction cs with
  | nil => exact ⟨[], rfl, nofun⟩
  | cons c cs ih =>
    cases kept : keep c with
    | true =>
      obtain ⟨rest, encoded, mark⟩ := ih
      refine ⟨rest, ?_, mark⟩
      rw [encode_cons_of_kept kept, List.takeWhile_cons_of_pos kept, encoded, List.cons_append]
    | false =>
      obtain ⟨rest, escapes⟩ := exists_escapes c
      refine ⟨'%' :: rest ++ encode keep cs, ?_, by simp⟩
      simp [encode_cons, kept, escapes]

/-- What an encoded text starts with, the text itself starts with, up to the first escape. -/
theorem isPrefix_of_encode {start cs : List Char} (unmarked : '%' ∉ start)
    (first : start <+: encode keep cs) : start <+: cs := by
  obtain ⟨rest, encoded, mark⟩ := encode_eq_append keep cs
  rw [encoded] at first
  exact (isPrefix_of_stops unmarked mark first).trans (List.takeWhile_prefix keep)

end Courier.Percent
