import Mathlib.Data.List.TakeWhile

/-!
# Texts up to where a test stops

What passes a test is taken from a text whole, and nothing of what comes after it, if that starts
with nothing that passes the test.
-/

namespace Courier

section Stops

variable {α : Type} {p : α → Bool} {rest : List α} (stops : ∀ c ∈ rest.head?, p c = false)

include stops

theorem takeWhile_append_of_stops (cs : List α) : (cs ++ rest).takeWhile p = cs.takeWhile p := by
  induction cs with
  | nil =>
    cases rest with
    | nil => rfl
    | cons c rest => simp [stops c rfl]
  | cons c cs ih =>
    rw [List.cons_append, List.takeWhile_cons, List.takeWhile_cons, ih]

theorem dropWhile_append_of_stops (cs : List α) :
    (cs ++ rest).dropWhile p = cs.dropWhile p ++ rest := by
  induction cs with
  | nil =>
    cases rest with
    | nil => rfl
    | cons c rest => simp [stops c rfl]
  | cons c cs ih =>
    rw [List.cons_append, List.dropWhile_cons, List.dropWhile_cons, ih]
    split <;> rfl

/-- What passes a test up to where it stops is split off there. -/
theorem span_append_of_stops {cs : List α} (passes : ∀ c ∈ cs, p c = true) :
    (cs ++ rest).takeWhile p = cs ∧ (cs ++ rest).dropWhile p = rest := by
  rw [takeWhile_append_of_stops stops, dropWhile_append_of_stops stops,
    List.takeWhile_eq_self_iff.mpr passes, List.dropWhile_eq_nil_iff.mpr passes]
  exact ⟨rfl, rfl⟩

end Stops

/-- What does not have a mark, and starts a text with a mark in it, starts it before the mark. -/
theorem isPrefix_of_stops {α : Type} {mark : α} {start before rest : List α}
    (unmarked : mark ∉ start) (stops : ∀ c ∈ rest.head?, c = mark)
    (first : start <+: before ++ rest) : start <+: before := by
  induction start generalizing before with
  | nil => exact List.nil_prefix
  | cons c start ih =>
    rw [List.mem_cons, not_or] at unmarked
    cases before with
    | cons d before =>
      obtain ⟨rfl, others⟩ := List.cons_prefix_cons.mp first
      exact List.cons_prefix_cons.mpr ⟨rfl, ih unmarked.2 others⟩
    | nil =>
      cases rest with
      | nil => exact absurd first (by simp)
      | cons d rest =>
        obtain ⟨rfl, -⟩ := List.cons_prefix_cons.mp first
        exact absurd (stops c rfl).symm unmarked.1

/-- What does not have a character passes the test for any other one. -/
theorem passes_of_not_mem {α : Type} [DecidableEq α] {c : α} {cs : List α} (clear : c ∉ cs) :
    ∀ d ∈ cs, decide (d ≠ c) = true := by
  intro d member
  rw [decide_eq_true_eq]
  rintro rfl
  exact clear member

end Courier
