/-!
# Results of computations that may fail

What a computation gives is what the last of its steps gives, if the steps before it give something.
-/

namespace Courier

section Results

variable {ε ε' α β : Type} {first : Except ε α} {value : α} {result : β}

/-- What a computation that may fail gives goes through both of its parts. -/
theorem bind_eq_ok {next : α → Except ε β} :
    (first >>= next) = .ok result ↔ ∃ value, first = .ok value ∧ next value = .ok result := by
  cases first with
  | error error => simp [bind, Except.bind]
  | ok value => simp [bind, Except.bind]

theorem mapError_eq_ok {f : ε → ε'} : first.mapError f = .ok value ↔ first = .ok value := by
  cases first with
  | error error => exact ⟨nofun, nofun⟩
  | ok value' =>
    change Except.ok value' = Except.ok value ↔ _
    simp only [Except.ok.injEq]

theorem map_eq_ok {f : α → β} :
    first.map f = .ok result ↔ ∃ value, first = .ok value ∧ f value = result := by
  cases first with
  | error error => simp [Except.map]
  | ok value => simp [Except.map]

end Results

end Courier
