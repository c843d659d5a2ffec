import Courier.Proofs.Confinement
import Courier.Proofs.Injection

/-!
# Which requests share an auth state

An auth state belongs to a host and a port. Every new state has a number of its own, so no two
places have the same one (`Session.Numbered`), and what a request was given stays committed for its
target as long as the caller leaves the cache alone (`cached_of_answers`). So two requests are given
the same state exactly if they are for the same host and port (`process_shares_iff`). The scheme
does not count: a request by `https` and one by `http` share the state if they are for the same port
(`schemes_share`).
-/

namespace Courier

section

variable [Codecs]

/-- Whether a URL is one of the web. -/
def Url.IsWeb (u : Url) : Prop := u.scheme = "http".toList ∨ u.scheme = "https".toList

/-- The target of a URL of the web has the port that the URL names, or else the one that its scheme
    stands for. -/
theorem Url.scope_port_of_web {u : Url} (web : u.IsWeb) : u.scope.port = u.effectivePort? := by
  unfold Url.effectivePort?
  rcases web with scheme | scheme <;> cases port : u.port <;>
    simp [Url.scope, Scope.named, Scope.of, Scope.defaultPort, Url.Port.default?, scheme, port]

namespace Session

/-- A session whose auth states have numbers of their own: each was given out, and no two hosts have
    the same. -/
structure Numbered (s : Session) : Prop where
  below : ∀ host state, s.cache.get? host = some state → state.serial < s.nextSerial
  apart : ∀ host other state state', s.cache.get? host = some state →
    s.cache.get? other = some state' →
    state.serial = state'.serial → host = other

omit [Codecs] in
theorem numbered_of_empty (store : CredentialStore) (nextSerial : Nat) :
    Numbered ⟨store, .empty, nextSerial⟩ where
  below host state cached := by cases cached
  apart host other state state' cached := by cases cached

omit [Codecs] in
theorem Numbered.authenticate {s : Session} (numbered : s.Numbered) (target : Scope) :
    (s.authenticate target).value.session.Numbered := by
  rcases s.authenticate_cases target with ⟨_, -, given⟩ | ⟨-, -, given⟩ | ⟨credentials, -, -, given⟩
  · rwa [given]
  · rwa [given]
  · rw [given]
    constructor
    · intro host state cached
      simp only [AuthCache.get?_set] at cached
      split at cached
      · cases cached
        exact Nat.lt_succ_self _
      · exact Nat.lt_succ_of_lt (numbered.below host state cached)
    · intro host other state state' cached cached' same
      simp only [AuthCache.get?_set] at cached cached'
      -- the number of the new state is above those of all others
      split at cached <;> split at cached'
      · rename_i here there
        rw [here, there]
      · cases cached
        have below := numbered.below other state' cached'
        simp only at same
        omega
      · cases cached'
        have below := numbered.below host state cached
        simp only at same
        omega
      · exact numbered.apart host other state state' cached cached' same

/-- Whether an operation is none on the cache. -/
def Operation.sparesCache : Operation → Bool
  | cache _ => false
  | _ => true

omit [Codecs] in
theorem Operation.keeps_of_spares {operation : Operation} (spares : operation.sparesCache = true)
    (host : Scope) : operation.Keeps host := by
  cases operation with
  | cache operation => cases spares
  | process request => trivial
  | resolve state target => trivial
  | register scope credentials => trivial
  | forgetCredentials => trivial

theorem Numbered.perform {s : Session} (numbered : s.Numbered) {operation : Operation}
    (spares : operation.sparesCache = true) : (s.perform operation).Numbered := by
  cases operation with
  | cache operation => cases spares
  | process request =>
    change (s.process request).value.1.Numbered
    rcases Scope.ofUrl_cases request.url with ⟨error, -, unnamed⟩ | ⟨-, located⟩
    · rwa [s.process_of_unnamed unnamed]
    · rw [s.process_eq located]
      exact numbered.authenticate request.url.scope
  | resolve state target => exact numbered
  | register scope credentials => exact ⟨numbered.below, numbered.apart⟩
  | forgetCredentials => exact ⟨numbered.below, numbered.apart⟩

theorem after_concat (s : Session) (operations : List Operation) (operation : Operation) :
    s.after (operations ++ [operation]) = (s.after operations).perform operation := by
  simp [after]

theorem Numbered.after {s : Session} (numbered : s.Numbered) {operations : List Operation}
    (spares : ∀ operation ∈ operations, operation.sparesCache = true) :
    (s.after operations).Numbered := by
  induction operations using List.reverseRecOn with
  | nil => exact numbered
  | append_singleton operations operation ih =>
    rw [after_concat]
    exact (ih fun other member => spares other (List.mem_append_left _ member)).perform
      (spares operation (by simp))

/-- The request that an operation processes, with the state that it is given. -/
def answer? (s : Session) : Operation → Option (Http.Request × AuthState)
  | .process request => (s.process request).value.2.toOption.map (request, ·)
  | _ => none

/-- The requests that are processed, one operation after another, with the states that they are
    given. -/
def answers (s : Session) : List Operation → List (Http.Request × AuthState)
  | [] => []
  | operation :: rest => (s.answer? operation).toList ++ (s.perform operation).answers rest

theorem answers_concat (s : Session) (operations : List Operation) (operation : Operation) :
    s.answers (operations ++ [operation]) =
      s.answers operations ++ ((s.after operations).answer? operation).toList := by
  induction operations generalizing s with
  | nil => simp [answers, after]
  | cons first rest ih =>
    rw [List.cons_append, answers, answers, ih, List.append_assoc]
    rfl

/-- What a request is given is committed for its target. -/
theorem cached_of_answer? {s : Session} {operation : Operation} {answer : Http.Request × AuthState}
    (answered : s.answer? operation = some answer) :
    (s.perform operation).cache.get? answer.1.url.scope = some answer.2 := by
  cases operation with
  | process request =>
    obtain ⟨state, given, rfl⟩ := Option.map_eq_some_iff.mp answered
    change (s.process request).value.1.cache.get? request.url.scope = some state
    rcases Scope.ofUrl_cases request.url with ⟨error, -, unnamed⟩ | ⟨-, located⟩
    · simp [s.process_of_unnamed unnamed, Except.toOption] at given
    · cases processed : (s.process request).value.2 with
      | error error => simp [processed, Except.toOption] at given
      | ok found =>
        rw [processed, Except.toOption, Option.some.injEq] at given
        rw [← given, s.process_eq located]
        exact get?_of_authenticate ((process_eq_ok_iff located found).mp processed)
  | resolve state target => cases answered
  | register scope credentials => cases answered
  | forgetCredentials => cases answered
  | cache operation => cases answered

/-- And it stays committed, as long as nothing is done on the cache. -/
theorem cached_of_answers {s : Session} {operations : List Operation}
    (spares : ∀ operation ∈ operations, operation.sparesCache = true) :
    ∀ answer ∈ s.answers operations,
      (s.after operations).cache.get? answer.1.url.scope = some answer.2 := by
  induction operations using List.reverseRecOn with
  | nil => simp [answers]
  | append_singleton operations operation ih =>
    intro answer member
    rw [answers_concat, List.mem_append, Option.mem_toList] at member
    rw [after_concat]
    rcases member with earlier | now
    · have cached :=
        ih (fun other among => spares other (List.mem_append_left _ among)) answer earlier
      exact get?_perform cached (Operation.keeps_of_spares (spares operation (by simp)) _)
    · exact cached_of_answer? now

variable {store : CredentialStore} {nextSerial : Nat} {operations : List Operation}

/-- Two requests are given the same state exactly if they have the same target. -/
theorem answers_eq_iff (spares : ∀ operation ∈ operations, operation.sparesCache = true)
    {first second : Http.Request × AuthState}
    (given : first ∈ answers ⟨store, .empty, nextSerial⟩ operations)
    (given' : second ∈ answers ⟨store, .empty, nextSerial⟩ operations) :
    (first.2 = second.2 ↔ first.1.url.scope = second.1.url.scope) ∧
      (first.2.serial = second.2.serial → first.2 = second.2) := by
  have cached := cached_of_answers spares first given
  have cached' := cached_of_answers spares second given'
  have numbered := (numbered_of_empty store nextSerial).after spares
  have states : first.1.url.scope = second.1.url.scope → first.2 = second.2 := by
    intro same
    rw [same, cached'] at cached
    exact (Option.some.inj cached).symm
  have targets : first.2.serial = second.2.serial →
      first.1.url.scope = second.1.url.scope :=
    numbered.apart _ _ _ _ cached cached'
  exact ⟨⟨fun same => targets (congrArg AuthState.serial same), states⟩, fun same =>
    states (targets same)⟩

/-- Two requests of the web are given the same state exactly if their URLs agree in the host, but
    for the case of its letters, and in the effective port; and states are the same as soon as their
    numbers are. -/
theorem process_shares_iff (spares : ∀ operation ∈ operations, operation.sparesCache = true)
    {first second : Http.Request × AuthState}
    (given : first ∈ answers ⟨store, .empty, nextSerial⟩ operations)
    (given' : second ∈ answers ⟨store, .empty, nextSerial⟩ operations)
    (web : first.1.url.IsWeb) (web' : second.1.url.IsWeb) :
    (first.2 = second.2 ↔
      Text.lower (String.ofList first.1.url.hostName) =
        Text.lower (String.ofList second.1.url.hostName) ∧
        first.1.url.effectivePort? = second.1.url.effectivePort?) ∧
      (first.2.serial = second.2.serial → first.2 = second.2) := by
  obtain ⟨shared, numbered⟩ := answers_eq_iff spares given given'
  refine ⟨shared.trans ?_, numbered⟩
  rw [← Url.scope_port_of_web web, ← Url.scope_port_of_web web', Scope.mk.injEq]
  simp [Url.scope, Scope.named, Scope.of]

end Session

end

namespace Session

/-- Credentials for every target. -/
def sharedStore : CredentialStore := ⟨[(.any, ⟨"bob", "pw"⟩)]⟩

/-- A URL by `https` whose port is that of `http`. -/
def secureUrl : Url := ⟨"https".toList, [], ['h'], some 80, ['/', 'a'], none, none⟩

/-- The same URL by `http`. -/
def insecureUrl : Url := ⟨"http".toList, [], ['h'], none, ['/', 'a'], none, none⟩

/-- A request by `https` and one by `http`, which the store has nothing for any more. -/
def overEdit : List Operation :=
  [.process (Client.plainRequest secureUrl), .forgetCredentials,
    .process (Client.plainRequest insecureUrl)]

attribute [local instance] Codecs.plain in
theorem process_shares_over_edit :
    (∀ operation ∈ overEdit, operation.sparesCache = true) ∧
      ∃ first ∈ answers ⟨sharedStore, .empty, 0⟩ overEdit,
        ∃ second ∈ answers ⟨sharedStore, .empty, 0⟩ overEdit,
          first.1.url = secureUrl ∧ second.1.url = insecureUrl ∧
            first.1.url.IsWeb ∧ second.1.url.IsWeb ∧
              (first.2 = second.2 ↔
                Text.lower (String.ofList first.1.url.hostName) =
                    Text.lower (String.ofList second.1.url.hostName) ∧
                  first.1.url.effectivePort? = second.1.url.effectivePort?) ∧
                (first.2.serial = second.2.serial → first.2 = second.2) := by
  have spares : ∀ operation ∈ overEdit, operation.sparesCache = true := by
    simp [overEdit, Operation.sparesCache]
  obtain ⟨state, answered⟩ : ∃ state, answers ⟨sharedStore, .empty, 0⟩ overEdit =
      [(Client.plainRequest secureUrl, state), (Client.plainRequest insecureUrl, state)] := ⟨_, rfl⟩
  have given : (Client.plainRequest secureUrl, state) ∈
    answers ⟨sharedStore, .empty, 0⟩ overEdit := by
    simp [answered]
  have given' : (Client.plainRequest insecureUrl, state) ∈
      answers ⟨sharedStore, .empty, 0⟩ overEdit := by
    simp [answered]
  have web : secureUrl.IsWeb := .inr rfl
  have web' : insecureUrl.IsWeb := .inl rfl
  exact ⟨spares, _, given, _, given', rfl, rfl, web, web',
    process_shares_iff spares given given' web web'⟩

attribute [local instance] Codecs.plain in
/-- The state that was committed for a host by `https` is the one that is used for it by `http`. -/
theorem schemes_share :
    ∃ state, answers ⟨sharedStore, .empty, 0⟩
          [.process (Client.plainRequest secureUrl), .process (Client.plainRequest insecureUrl)] =
        [(Client.plainRequest secureUrl, state), (Client.plainRequest insecureUrl, state)] ∧
      secureUrl.IsWeb ∧ insecureUrl.IsWeb ∧ secureUrl.scheme ≠ insecureUrl.scheme :=
  ⟨_, rfl, .inr rfl, .inl rfl, by decide⟩

end Session

end Courier
