import Courier.Auth.Credentials
import Courier.Auth.Scope
import Courier.Log.Record

/-!
# The credential store

Credentials are registered under scopes. The credentials for a target are those of the very scope of
the target or, without one, of the registered scope that fits it best; of equally good ones the
first registered counts. Registering a scope again replaces its credentials and keeps its place.
-/

namespace Courier

/-- Credentials by scope, in the order in which the scopes were first registered. -/
structure CredentialStore where
  entries : List (Scope × Credentials)
  deriving DecidableEq, Repr, Inhabited

namespace CredentialStore

/-- The store without credentials. -/
def empty : CredentialStore := ⟨[]⟩

/-- The number of registered scopes. -/
def size (s : CredentialStore) : Nat := s.entries.length

/-- Registers credentials for a scope. -/
def set (s : CredentialStore) (scope : Scope) (credentials : Credentials) : CredentialStore :=
  if s.entries.any (·.1 == scope) then
    ⟨s.entries.map fun entry => if entry.1 == scope then (scope, credentials) else entry⟩
  else ⟨s.entries ++ [(scope, credentials)]⟩

/-- The credentials registered under exactly this scope. -/
def get? (s : CredentialStore) (scope : Scope) : Option Credentials := s.entries.lookup scope

/-- The better of the best entry so far and the next one, for a target. -/
def better (target : Scope) (best : Option (Int × Credentials)) (entry : Scope × Credentials) :
    Option (Int × Credentials) :=
  let score := target.score entry.1
  let least := match best with
    | some (score, _) => score
    | none => -1
  if least < score then some (score, entry.2) else best

/-- The credentials of the registered scope that fits the target best. -/
def bestMatch? (s : CredentialStore) (target : Scope) : Option Credentials :=
  (s.entries.foldl (better target) none).map (·.2)

/-- The credentials for a target. -/
def find? (s : CredentialStore) (target : Scope) : Option Credentials :=
  s.get? target <|> s.bestMatch? target

/-- The logger of the store. -/
def loggerName : String := "preemptive.auth.credentials"

/-- The credentials for a target, with a record when there are none. -/
def lookup (s : CredentialStore) (target : Scope) : Logged (Option Credentials) :=
  match s.find? target with
  | some credentials => ⟨some credentials, []⟩
  | none => ⟨none, [.plain loggerName s!"No credentials registered for {target.shown}"]⟩

end CredentialStore

end Courier
