import Courier.Auth.Cache
import Courier.Auth.Store
import Courier.Error
import Courier.Http.Request

/-!
# Preemptive authentication

A session is a credential store and a cache of auth states. Before a request is sent, the session
commits a basic scheme for its target, bound to the credentials the store has for it then, so that
the first request is already authenticated. Later requests to the same target find the committed
state, whatever the store holds by then.
-/

namespace Courier

/-- The credentials and the auth states of a client. -/
structure Session where
  store : CredentialStore
  cache : AuthCache
  /-- The serial number of the next auth state. -/
  nextSerial : Nat
  deriving DecidableEq, Repr, Inhabited

namespace Session

/-- The session without credentials and states. -/
def empty : Session := ⟨.empty, .empty, 0⟩

/-- The logger of the session. -/
def loggerName : String := "preemptive.auth.preemptive"

/-- Makes an auth state for the basic scheme. -/
def newState (s : Session) (credentials : Option Credentials) : AuthState × Session :=
  (⟨s.nextSerial, .basic, credentials⟩, { s with nextSerial := s.nextSerial + 1 })

/-- The outcome of `Session.authenticate`: the session afterwards, and the auth state of the target,
    or nothing when there are no credentials for it. -/
structure Authenticated where
  session : Session
  state : Option AuthState

/-- Makes sure that a target has an auth state. -/
def authenticate (s : Session) (target : Scope) : Logged Authenticated :=
  match s.cache.get? target with
  | some state => ⟨⟨s, some state⟩, []⟩
  | none =>
    let found := s.store.lookup target
    match found.value with
    | none => ⟨⟨s, none⟩, found.records⟩
    | some credentials =>
      let (state, s) := s.newState (some credentials)
      let committed := s.cache.commit target state
      ⟨⟨{ s with cache := committed.value.1 }, some committed.value.2⟩,
        found.records
          ++ .plain loggerName
            s!"Preemptively authenticating {target.place} as {credentials.username.quoted}"
          :: committed.records⟩

/-- Gives a request the auth state of its target, or the failure of a target without a name or
    without credentials, and the session afterwards. -/
def process [Codecs] (s : Session) (request : Http.Request) :
    Logged (Session × Except Failure AuthState) :=
  match Scope.ofUrl request.url with
  | .error error => ⟨(s, .error (.name error)), []⟩
  | .ok target =>
    let authenticated := s.authenticate target
    let result := match authenticated.value.state with
      | some state => .ok state
      | none => .error (.client (.noCredentials target))
    ⟨(authenticated.value.session, result), authenticated.records⟩

/-- The credentials a state applies with at a target. -/
def resolve (s : Session) (state : AuthState) (target : Scope) : Logged (Option Credentials) :=
  match state.credentials with
  | some credentials => ⟨some credentials, []⟩
  | none => s.store.lookup target

end Session

end Courier
