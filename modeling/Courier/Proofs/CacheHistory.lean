import Courier.Proofs.Cache
import Mathlib.Data.List.DropRight
import Mathlib.Data.List.Induction
import Mathlib.Data.Set.Card

/-!
# The history of a cache

What a cache holds for a host can be read off what was done with it: since the host was last
removed, or the cache cleared, the last state that was put counts, or else the first one that was
committed (`recorded`). One more operation does the same to the cache (`get?_perform`) as to what is
read off (`recorded_concat`), so the two agree after every history (`get?_after`), and the answers
of the operations follow (`history_law`).
-/

namespace Courier.AuthCache

/-- What is done with a cache. -/
inductive Operation where
  | get (host : Scope)
  | put (host : Scope) (state : AuthState)
  | commit (host : Scope) (state : AuthState)
  | remove (host : Scope)
  | clear

namespace Operation

/-- The host that an operation is about; clearing is about all of them. -/
def host? : Operation → Option Scope
  | get host | put host _ | commit host _ | remove host => some host
  | clear => none

/-- Whether an operation leaves a host without a state. -/
def resets (host : Scope) : Operation → Bool
  | remove other => other = host
  | clear => true
  | _ => false

/-- The state that an operation puts for a host. -/
def put? (host : Scope) : Operation → Option AuthState
  | put other state => if other = host then some state else none
  | _ => none

/-- The state that an operation commits for a host. -/
def commit? (host : Scope) : Operation → Option AuthState
  | commit other state => if other = host then some state else none
  | _ => none

/-- Whether an operation leaves the state of a host in its place. -/
def Keeps (host : Scope) (operation : Operation) : Prop :=
  operation.resets host = false ∧ operation.put? host = none

/-- An operation on another host does nothing about a host. -/
theorem of_apart {operation : Operation} {host other : Scope} (about : operation.host? = some other)
    (apart : other ≠ host) : operation.resets host = false ∧ operation.put? host = none ∧
      operation.commit? host = none := by
  cases operation with
  | get about' => exact ⟨rfl, rfl, rfl⟩
  | put about' state =>
    cases about
    exact ⟨rfl, if_neg apart, rfl⟩
  | commit about' state =>
    cases about
    exact ⟨rfl, rfl, if_neg apart⟩
  | remove about' =>
    cases about
    exact ⟨decide_eq_false apart, rfl, rfl⟩
  | clear => cases about

end Operation

/-- The cache after an operation. -/
def perform (c : AuthCache) : Operation → AuthCache
  | .get _ => c
  | .put host state => (c.put host state).value
  | .commit host state => (c.commit host state).value.1
  | .remove host => c.remove host
  | .clear => .empty

/-- The state that an operation gives back, if it gives one back. -/
def answer (c : AuthCache) : Operation → Option AuthState
  | .get host => c.get? host
  | .commit host state => some (c.commit host state).value.2
  | _ => none

/-- The cache after one operation and another. -/
def after (c : AuthCache) (history : List Operation) : AuthCache := history.foldl perform c

/-- What was done since a host was last left without a state. -/
def sinceReset (host : Scope) (history : List Operation) : List Operation :=
  history.rtakeWhile fun operation => !operation.resets host

/-- The states that were put for a host since. -/
def puts (host : Scope) (history : List Operation) : List AuthState :=
  (sinceReset host history).filterMap (·.put? host)

/-- The states that were committed for a host since. -/
def commits (host : Scope) (history : List Operation) : List AuthState :=
  (sinceReset host history).filterMap (·.commit? host)

/-- The state that a history gives a host: the last one put, or else the first one committed. -/
def recorded (host : Scope) (history : List Operation) : Option AuthState :=
  (puts host history).getLast? <|> (commits host history).head?

/-- What an operation does about the state of a host. -/
theorem get?_perform (c : AuthCache) (operation : Operation) (host : Scope) :
    (c.perform operation).get? host = if operation.resets host then none
      else operation.put? host <|> c.get? host <|> operation.commit? host := by
  cases operation with
  | get other => simp [perform, Operation.resets, Operation.put?, Operation.commit?]
  | put other state =>
    by_cases same : host = other
    · simp [perform, put, get?_set, Operation.resets, Operation.put?, same]
    · simp [perform, put, get?_set, Operation.resets, Operation.put?, Operation.commit?,
        same, Ne.symm same]
  | commit other state =>
    by_cases same : host = other
    · cases present : c.get? other <;>
        simp [perform, get?_commit, Operation.resets, Operation.put?, Operation.commit?,
          same, present]
    · simp [perform, get?_commit, Operation.resets, Operation.put?, Operation.commit?,
        same, Ne.symm same]
  | remove other =>
    by_cases same : host = other
    · simp [perform, get?_remove, Operation.resets, same]
    · simp [perform, get?_remove, Operation.resets, Operation.put?, Operation.commit?,
        same, Ne.symm same]
  | clear => simp [perform, Operation.resets, empty, get?]

theorem filterMap_sinceReset_concat {α : Type} (f : Operation → Option α) (host : Scope)
    (history : List Operation) (operation : Operation) :
    (sinceReset host (history ++ [operation])).filterMap f = if operation.resets host then []
      else (sinceReset host history).filterMap f ++ (f operation).toList := by
  unfold sinceReset
  rw [List.rtakeWhile_concat]
  cases operation.resets host with
  | true => rfl
  | false =>
    simp only [Bool.not_false, if_true, List.filterMap_append, Bool.false_eq_true, if_false]
    cases given : f operation <;> simp [given]

/-- What an operation does about the state that is read off a history. -/
theorem recorded_concat (host : Scope) (history : List Operation) (operation : Operation) :
    recorded host (history ++ [operation]) = if operation.resets host then none
      else operation.put? host <|> recorded host history <|> operation.commit? host := by
  unfold recorded puts commits
  rw [filterMap_sinceReset_concat, filterMap_sinceReset_concat]
  cases operation.resets host with
  | true => rfl
  | false =>
    simp only [Bool.false_eq_true, if_false]
    cases operation.put? host <;> cases operation.commit? host <;> simp

theorem after_concat (c : AuthCache) (history : List Operation) (operation : Operation) :
    c.after (history ++ [operation]) = (c.after history).perform operation := by
  simp [after]

theorem get?_after (history : List Operation) (host : Scope) :
    (empty.after history).get? host = recorded host history := by
  induction history using List.reverseRecOn with
  | nil => rfl
  | append_singleton history operation ih =>
    rw [after_concat, get?_perform, ih, recorded_concat]

/-- A state that an operation keeps in its place is still there after it. -/
theorem get?_perform_of_keeps {c : AuthCache} {host : Scope} {state : AuthState}
    (cached : c.get? host = some state) {operation : Operation} (keeps : operation.Keeps host) :
    (c.perform operation).get? host = some state := by
  obtain ⟨kept, unput⟩ := keeps
  simp [get?_perform, kept, unput, cached]

theorem get?_after_of_keeps {c : AuthCache} {host : Scope} {state : AuthState}
    (cached : c.get? host = some state) {operations : List Operation}
    (keeps : ∀ operation ∈ operations, operation.Keeps host) :
    (c.after operations).get? host = some state := by
  induction operations generalizing c with
  | nil => exact cached
  | cons operation rest ih =>
    have kept := get?_perform_of_keeps cached (keeps operation (by simp))
    exact ih kept fun later member => keeps later (List.mem_cons_of_mem _ member)

/-! ## The number of hosts -/

theorem perform_nodup {c : AuthCache} (nodup : c.hosts.Nodup) (operation : Operation) :
    (c.perform operation).hosts.Nodup := by
  cases operation with
  | get host => exact nodup
  | put host state =>
    rw [perform, put, hosts_set]
    exact Scope.contact_nodup nodup host
  | commit host state =>
    rw [perform, hosts_commit]
    exact Scope.contact_nodup nodup host
  | remove host => exact nodup.sublist (List.filter_sublist.map Prod.fst)
  | clear => exact List.nodup_nil

/-- A cache that lists no host twice has as many entries as there are hosts with a state. -/
theorem size_eq_encard {c : AuthCache} (nodup : c.hosts.Nodup) :
    (c.size : ℕ∞) = {host | c.get? host ≠ none}.encard := by
  have hosts : {host | c.get? host ≠ none} = (c.hosts.toFinset : Set Scope) := by
    ext host
    simp [mem_hosts_iff]
  rw [hosts, Set.encard_coe_eq_coe_finsetCard, List.toFinset_card_of_nodup nodup]
  simp [size, AuthCache.hosts]

theorem after_nodup (history : List Operation) : (empty.after history).hosts.Nodup := by
  induction history using List.reverseRecOn with
  | nil => exact List.nodup_nil
  | append_singleton history operation ih =>
    rw [after_concat]
    exact perform_nodup ih operation

/-! ## The law -/

/-- What is to hold of a cache that was empty at first, after a history and of whatever comes next.
    Equal states have the same serial number, so they are one and the same. -/
structure HistoryLaw (history : List Operation) : Prop where
  current : ∀ host, (empty.after history).answer (.get host) =
    ((puts host history).getLast? <|> (commits host history).head?)
  absent : ∀ host, (empty.after history).answer (.get host) = none ↔
    puts host history = [] ∧ commits host history = []
  /-- What committing gives back is what the host has right after it. -/
  committed : ∀ host state, (empty.after history).answer (.commit host state) =
    (empty.after (history ++ [.commit host state])).answer (.get host)
  /-- Two states that are committed for a host are answered by the same one, unless the host is
      reset or a state is put for it between them. -/
  shared : ∀ host first second between,
    (∀ operation ∈ between, operation.resets host = false ∧ operation.put? host = none) →
      (empty.after (history ++ .commit host first :: between)).answer (.commit host second) =
        (empty.after history).answer (.commit host first)
  apart : ∀ operation host other, operation.host? = some other → other ≠ host →
    (empty.after (history ++ [operation])).answer (.get host) =
      (empty.after history).answer (.get host)
  counted : ((empty.after history).size : ℕ∞) =
    {host | puts host history ≠ [] ∨ commits host history ≠ []}.encard

theorem history_law (history : List Operation) : HistoryLaw history := by
  have current := get?_after history
  have absent : ∀ host, (empty.after history).get? host = none ↔
      puts host history = [] ∧ commits host history = [] := by
    intro host
    rw [current, recorded]
    simp
  refine ⟨current, absent, ?_, ?_, ?_, ?_⟩
  · intro host state
    rw [after_concat, answer, answer, perform, get?_commit, if_pos rfl, commit_state]
  · intro host first second between keeps
    let c := (empty.after history).perform (.commit host first)
    have cached : c.get? host = some (((empty.after history).get? host).getD first) := by
      simp only [c, perform, get?_commit, if_true]
    have later := get?_after_of_keeps cached keeps
    have reached : empty.after (history ++ .commit host first :: between) = c.after between := by
      simp [after, c]
    rw [reached, answer, answer, commit_state, commit_state, later]
    rfl
  · intro operation host other about apart
    obtain ⟨kept, unput, uncommitted⟩ := Operation.of_apart about apart
    rw [after_concat, answer, answer, get?_perform, kept, unput, uncommitted]
    simp
  · rw [size_eq_encard (after_nodup history)]
    congr 1
    ext host
    simp only [Set.mem_ofPred_eq, ne_eq, absent, not_and_or]

end Courier.AuthCache
