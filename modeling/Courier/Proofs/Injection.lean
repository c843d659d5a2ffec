import Courier.Proofs.CacheHistory
import Courier.Proofs.Prepare

/-!
# One state for each target

Processing a request commits a state for its target, once: whatever is done with the session later,
every request to this target is given the same state, unless the caller puts another one or removes
it (`Session.process_commitsOnce`). What carries this is that a committed state stays where it is
over every other operation (`Session.get?_perform`). A request is prepared with the state that
processing gives it, and refused with the error (`Client.prepare_eq_process`).
-/

namespace Courier

namespace Session

/-- What is done with a session. -/
inductive Operation where
  | process (request : Http.Request)
  | resolve (state : AuthState) (target : Scope)
  | register (scope : Scope) (credentials : Credentials)
  | forgetCredentials
  | cache (operation : AuthCache.Operation)

/-- Whether an operation leaves the auth state of a host in its place. Only putting a state for the
    host, removing the host and clearing the cache do not. -/
def Operation.Keeps (host : Scope) : Operation → Prop
  | cache operation => operation.Keeps host
  | _ => True

section

variable [Codecs]

/-- The session after an operation. -/
def perform (s : Session) : Operation → Session
  | .process request => (s.process request).value.1
  | .resolve _ _ => s
  | .register scope credentials => { s with store := s.store.set scope credentials }
  | .forgetCredentials => { s with store := .empty }
  | .cache operation => { s with cache := s.cache.perform operation }

/-- The session after one operation and another. -/
def after (s : Session) (operations : List Operation) : Session := operations.foldl perform s

variable {s : Session} {request : Http.Request} {target : Scope}

theorem process_of_unnamed (s : Session) {error : NameError}
    (unnamed : Scope.ofUrl request.url = .error error) :
    (s.process request).value = (s, .error (.name error)) := by
  rw [process, unnamed]

theorem process_eq (s : Session) (located : Scope.ofUrl request.url = .ok target) :
    (s.process request).value =
      ((s.authenticate target).value.session,
        match (s.authenticate target).value.state with
        | some state => .ok state
        | none => .error (.client (.noCredentials target))) := by
  cases state : (s.authenticate target).value.state <;> simp [process, located, state]

theorem process_eq_ok_iff (located : Scope.ofUrl request.url = .ok target) (state : AuthState) :
    (s.process request).value.2 = .ok state ↔ (s.authenticate target).value.state = some state := by
  rw [s.process_eq located]
  cases (s.authenticate target).value.state <;> simp

theorem process_eq_error_iff (located : Scope.ofUrl request.url = .ok target) (failure : Failure) :
    (s.process request).value.2 = .error failure ↔
      (s.authenticate target).value.state = none ∧ failure = .client (.noCredentials target) := by
  rw [s.process_eq located]
  cases (s.authenticate target).value.state <;> simp [eq_comm]

/-- A request whose target has a state is given it. -/
theorem process_of_cached (located : Scope.ofUrl request.url = .ok target) {state : AuthState}
    (cached : s.cache.get? target = some state) : (s.process request).value = (s, .ok state) := by
  rw [s.process_eq located, authenticate_of_cached cached]

/-- An operation that keeps the state of a host in its place leaves it there. -/
theorem get?_perform {host : Scope} {state : AuthState} (cached : s.cache.get? host = some state)
    {operation : Operation} (keeps : operation.Keeps host) :
    (s.perform operation).cache.get? host = some state := by
  cases operation with
  | process request =>
    change (s.process request).value.1.cache.get? host = some state
    cases located : Scope.ofUrl request.url with
    | error error =>
      rw [s.process_of_unnamed located]
      exact cached
    | ok target =>
      by_cases same : host = target
      · rw [process_of_cached located (same ▸ cached)]
        exact cached
      · rw [s.process_eq located, get?_authenticate_of_ne s same, cached]
  | resolve state target => exact cached
  | register scope credentials => exact cached
  | forgetCredentials => exact cached
  | cache operation => exact AuthCache.get?_perform_of_keeps cached keeps

theorem get?_after {host : Scope} {state : AuthState} (cached : s.cache.get? host = some state)
    {operations : List Operation} (keeps : ∀ operation ∈ operations, operation.Keeps host) :
    (s.after operations).cache.get? host = some state := by
  induction operations generalizing s with
  | nil => exact cached
  | cons operation rest ih =>
    have kept := get?_perform cached (keeps operation (by simp))
    exact ih kept fun later member => keeps later (List.mem_cons_of_mem _ member)

/-- What processing a request for a target is to do. -/
structure CommitsTo (s : Session) (request : Http.Request) (target : Scope) : Prop where
  refused : ∀ failure, (s.process request).value.2 = .error failure ↔
    s.cache.get? target = none ∧ (s.store.lookup target).value = none ∧
      failure = .client (.auth "No credentials for preemptive authentication" (some target))
  unchanged : ∀ failure, (s.process request).value.2 = .error failure →
    (s.process request).value.1 = s
  /-- Every later request to the target is given the same state. -/
  kept : ∀ state, (s.process request).value.2 = .ok state →
    ∀ operations, (∀ operation ∈ operations, operation.Keeps target) →
      ∀ later : Http.Request, Scope.ofUrl later.url = .ok target →
        (((s.process request).value.1.after operations).process later).value.2 = .ok state
  apart : ∀ host, host ≠ target → (s.process request).value.1.cache.get? host = s.cache.get? host

/-- What processing a request is to do. -/
structure CommitsOnce (s : Session) (request : Http.Request) : Prop where
  /-- A request whose host stands for no name touches nothing. -/
  unnamed : ∀ error, Scope.ofUrl request.url = .error error →
    (s.process request).value = (s, .error (.name error))
  commits : ∀ target, Scope.ofUrl request.url = .ok target → s.CommitsTo request target

theorem process_commitsTo (s : Session) (located : Scope.ofUrl request.url = .ok target) :
    s.CommitsTo request target := by
  refine ⟨?_, ?_, ?_, ?_⟩
  · intro failure
    rw [process_eq_error_iff located, authenticate_state_eq_none,
      CredentialStore.lookup_value, and_assoc]
    rfl
  · intro failure refused
    rw [s.process_eq located]
    exact authenticate_of_refused ((process_eq_error_iff located failure).mp refused).1
  · intro state given operations keeps later located'
    have committed : (s.process request).value.1.cache.get? target = some state := by
      rw [s.process_eq located]
      exact get?_of_authenticate ((process_eq_ok_iff located state).mp given)
    rw [process_of_cached located' (get?_after committed keeps)]
  · intro host apart
    rw [s.process_eq located]
    exact s.get?_authenticate_of_ne apart

theorem process_commitsOnce (s : Session) (request : Http.Request) : s.CommitsOnce request :=
  ⟨fun _ => s.process_of_unnamed, fun _ => s.process_commitsTo⟩

end

end Session

/-- A request is prepared with the state that processing it gives, and refused with the failure. -/
theorem Client.prepare_eq_process [Codecs] (c : Client) (request : Http.Request) :
    (c.prepare request).value =
      ({ c with session := (c.session.process request).value.1 },
        match (c.session.process request).value.2 with
        | .ok state => c.outgoingRequest request state
        | .error failure => .error failure) := by
  refine Prod.ext ?_ ?_
  · rw [c.prepare_client, preparedSession, Session.process]
    cases Scope.ofUrl request.url <;> rfl
  · rw [c.prepare_request, Session.process]
    cases Scope.ofUrl request.url with
    | error error => rfl
    | ok target =>
      dsimp only
      cases (c.session.authenticate target).value.state <;> rfl

end Courier
