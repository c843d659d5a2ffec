import Courier.Proofs.Matching
import Mathlib.Data.List.DropRight
import Mathlib.Data.List.Induction

/-!
# The history of a store

What a store has for a scope can be read off what was done with it: what was done last about this
scope counts (`recorded`). The scopes stand in the order in which they were first registered since
the store was cleared (`registered`). One more operation does the same to the store as to what is
read off (`get?_perform` and `recorded_concat`, `scopes_perform` and `registered_concat`), so the
two agree after every history.

From this follows what is found for a target: what the plain scan finds, which is the first of the
scopes that fit best (`scan_law`), and for a target with a host and a port the most specific
registration (`precedence_law`).
-/

namespace Courier.CredentialStore

/-- What is done with a store; a host is given as the caller writes it. -/
inductive Operation where
  | register (host : Option String) (port : Option Int) (credentials : Credentials)
  | clear

namespace Operation

/-- The scope that an operation registers. -/
def scope? : Operation → Option Scope
  | register host port _ => some (.of host port)
  | clear => none

/-- What an operation leaves for a scope, if it does something about it: credentials, or nothing. -/
def leaves? (scope : Scope) : Operation → Option (Option Credentials)
  | register host port credentials =>
    if Scope.of host port = scope then some (some credentials) else none
  | clear => some none

end Operation

/-- The store after an operation. -/
def perform (s : CredentialStore) : Operation → CredentialStore
  | .register host port credentials => s.set (.of host port) credentials
  | .clear => .empty

/-- The store after one operation and another. -/
def after (s : CredentialStore) (history : List Operation) : CredentialStore :=
  history.foldl perform s

theorem after_concat (s : CredentialStore) (history : List Operation) (operation : Operation) :
    s.after (history ++ [operation]) = (s.after history).perform operation := by
  simp [after]

/-! ## The credentials of a scope -/

/-- What was done about a scope. -/
def deeds (scope : Scope) (history : List Operation) : List (Option Credentials) :=
  history.filterMap (·.leaves? scope)

/-- The credentials that a history leaves for a scope: those that were set last, unless the store
    was cleared since. -/
def recorded (history : List Operation) (scope : Scope) : Option Credentials :=
  (deeds scope history).getLast?.join

theorem get?_perform (s : CredentialStore) (operation : Operation) (scope : Scope) :
    (s.perform operation).get? scope = (operation.leaves? scope).getD (s.get? scope) := by
  cases operation with
  | register host port credentials =>
    rw [perform, get?_set, Operation.leaves?]
    by_cases same : scope = Scope.of host port
    · rw [if_pos same, if_pos same.symm]
      rfl
    · rw [if_neg same, if_neg (Ne.symm same)]
      rfl
  | clear => rfl

theorem recorded_concat (history : List Operation) (operation : Operation) (scope : Scope) :
    recorded (history ++ [operation]) scope = (operation.leaves? scope).getD
      (recorded history scope) := by
  unfold recorded deeds
  rw [List.filterMap_append]
  cases left : operation.leaves? scope with
  | none => simp [left]
  | some credentials => simp [left]

theorem get?_after (history : List Operation) (scope : Scope) :
    (empty.after history).get? scope = recorded history scope := by
  induction history using List.reverseRecOn with
  | nil => rfl
  | append_singleton history operation ih => rw [after_concat, get?_perform, ih, recorded_concat]

/-! ## The order of the scopes -/

/-- What was done since a store was last cleared. -/
def sinceClear (history : List Operation) : List Operation := history.rtakeWhile (·.scope?.isSome)

/-- The scopes that were registered since, each where it was registered first. -/
def registered (history : List Operation) : List Scope :=
  ((sinceClear history).filterMap Operation.scope?).eraseDups

theorem registered_concat (history : List Operation) (operation : Operation) :
    registered (history ++ [operation]) =
      match operation.scope? with
      | some scope => Scope.contact (registered history) scope
      | none => [] := by
  unfold registered sinceClear
  rw [List.rtakeWhile_concat]
  cases operation with
  | register host port credentials =>
    simp only [Operation.scope?, Option.isSome_some, if_true, List.filterMap_append]
    exact eraseDups_concat _ _
  | clear => rfl

theorem scopes_perform (s : CredentialStore) (operation : Operation) :
    (s.perform operation).scopes =
      match operation.scope? with
      | some scope => Scope.contact s.scopes scope
      | none => [] := by
  cases operation with
  | register host port credentials => exact s.scopes_set _ _
  | clear => rfl

theorem scopes_after (history : List Operation) :
    (empty.after history).scopes = registered history := by
  induction history using List.reverseRecOn with
  | nil => rfl
  | append_singleton history operation ih =>
    rw [after_concat, scopes_perform, ih, registered_concat]

theorem perform_nodup {s : CredentialStore} (nodup : s.scopes.Nodup) (operation : Operation) :
    (s.perform operation).scopes.Nodup := by
  rw [scopes_perform]
  cases operation.scope? with
  | some scope => exact Scope.contact_nodup nodup scope
  | none => exact List.nodup_nil

theorem after_nodup (history : List Operation) : (empty.after history).scopes.Nodup := by
  induction history using List.reverseRecOn with
  | nil => exact List.nodup_nil
  | append_singleton history operation ih =>
    rw [after_concat]
    exact perform_nodup ih operation

theorem mem_registered_iff (history : List Operation) (scope : Scope) :
    scope ∈ registered history ↔ recorded history scope ≠ none := by
  rw [← scopes_after, mem_scopes_iff, get?_after]

/-! ## What is found -/

/-- What looking a target up is to give after a history. -/
structure ScanLaw (history : List Operation) (target : Scope) : Prop where
  /-- Nothing is found but what the scan of all entries finds. -/
  scanned : ((empty.after history).lookup target).value = (empty.after history).bestMatch? target
  /-- The first registered of the scopes that fit best counts. -/
  best : ((empty.after history).lookup target).value =
    (((registered history).filter fun scope => 0 ≤ target.score scope).argmax target.score).bind
      (recorded history)
  absent : ((empty.after history).lookup target).value = none ↔
    ∀ scope ∈ registered history, target.score scope = -1

theorem scan_law (history : List Operation) (target : Scope) : ScanLaw history target := by
  have nodup := after_nodup history
  have scanned : ((empty.after history).lookup target).value =
    (empty.after history).bestMatch? target := by
    rw [lookup_value, find?_eq_bestMatch? nodup]
  have given : (empty.after history).get? = recorded history := funext (get?_after history)
  refine ⟨scanned, ?_, ?_⟩
  · rw [scanned, bestMatch?_eq_bind nodup, scopes_after, given]
  · rw [scanned, bestMatch?_eq_none_iff, ← scopes_after, scopes]
    simp

/-- What looking a host and a port up is to give after a history. -/
structure PrecedenceLaw (history : List Operation) (host : String) (port : Int) : Prop where
  found : ((empty.after history).lookup (.of (some host) (some port))).value =
    (Scope.widenings host port).findSome? (recorded history)
  absent : ((empty.after history).lookup (.of (some host) (some port))).value = none ↔
    ∀ scope ∈ Scope.widenings host port, scope ∉ registered history
  /-- What was done about scopes that name something else does not count, nor the order of what was
      done about different scopes. -/
  independent : ∀ other : List Operation,
    (∀ scope : Scope, scope.Fits (.of (some host) (some port)) →
      deeds scope other = deeds scope history) →
      ((empty.after other).lookup (.of (some host) (some port))).value =
        ((empty.after history).lookup (.of (some host) (some port))).value
  /-- Whether a scope names this host does not depend on the case of its letters. -/
  cased : ∀ name registeredPort, Scope.of (some name) registeredPort =
    .of (some host) registeredPort ↔
    Text.lower name = Text.lower host

theorem lookup_eq_findSome? (history : List Operation) (host : String) (port : Int) :
    ((empty.after history).lookup (.of (some host) (some port))).value =
      (Scope.widenings host port).findSome? (recorded history) := by
  have nodup := after_nodup history
  have given : (empty.after history).get? = recorded history := funext (get?_after history)
  rw [lookup_value, find?_eq_bestMatch? nodup, ← given]
  exact bestMatch?_eq_findSome? nodup (Scope.widenings_falls host port)
    (Scope.nonneg_iff_mem_widenings host port)

theorem precedence_law (history : List Operation) (host : String) (port : Int) :
    PrecedenceLaw history host port := by
  refine ⟨lookup_eq_findSome? history host port, ?_, ?_, ?_⟩
  · rw [lookup_eq_findSome?, List.findSome?_eq_none_iff]
    simp only [mem_registered_iff, not_not]
  · intro other same
    have agree : ∀ scope ∈ Scope.widenings host port,
      recorded other scope = recorded history scope := by
      intro scope member
      rw [recorded, recorded, same scope ((Scope.mem_widenings_iff host port scope).mp member)]
    rw [lookup_eq_findSome?, lookup_eq_findSome?, ← List.head?_filterMap, ← List.head?_filterMap,
      List.filterMap_congr agree]
  · intro name registeredPort
    simp [Scope.of]

end Courier.CredentialStore
