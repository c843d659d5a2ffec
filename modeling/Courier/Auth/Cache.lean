import Courier.Auth.Credentials
import Courier.Auth.Scope
import Courier.Log.Record

/-!
# The cache of committed auth states

For every host a client has authenticated to, the cache holds the scheme it committed to. A
committed state stays until it is removed or overwritten: committing another one gives back the
first.

States are told apart by their serial numbers, as two states with equal contents can be committed
for two hosts. Whoever makes a state gives it a new number.
-/

namespace Courier

/-- The ways to authenticate. -/
inductive Scheme where
  | basic
  deriving DecidableEq, Repr, Inhabited

/-- The name of a scheme. -/
def Scheme.name : Scheme → String
  | basic => "basic"

/-- The text that shows a scheme. -/
def Scheme.shown : Scheme → String
  | basic => "BasicScheme()"

/-- The value of the header that presents credentials. -/
def Scheme.header : Scheme → Credentials → Except RawText.Unencodable (List Char)
  | basic, credentials => credentials.basicHeader

/-- A committed scheme with its credentials; a state without credentials takes them from the store
    when a header is built. -/
structure AuthState where
  serial : Nat
  scheme : Scheme
  credentials : Option Credentials
  deriving DecidableEq, Repr, Inhabited

/-- The text that shows a state. -/
def AuthState.shown (s : AuthState) : String :=
  let credentials := match s.credentials with
    | some credentials => credentials.shown
    | none => "None"
  s!"AuthState(scheme={s.scheme.shown}, credentials={credentials})"

/-- Auth states by host, in the order in which the hosts came in. -/
structure AuthCache where
  entries : List (Scope × AuthState)
  deriving DecidableEq, Repr, Inhabited

namespace AuthCache

/-- The cache without states. -/
def empty : AuthCache := ⟨[]⟩

/-- The number of hosts with a state. -/
def size (c : AuthCache) : Nat := c.entries.length

/-- The state of a host. -/
def get? (c : AuthCache) (host : Scope) : Option AuthState := c.entries.lookup host

/-- Whether a host has a state. -/
def contains (c : AuthCache) (host : Scope) : Bool := (c.get? host).isSome

/-- The cache with the state of a host set. -/
def set (c : AuthCache) (host : Scope) (state : AuthState) : AuthCache :=
  if c.contains host then
    ⟨c.entries.map fun entry => if entry.1 == host then (host, state) else entry⟩
  else ⟨c.entries ++ [(host, state)]⟩

/-- The cache without the state of a host. -/
def remove (c : AuthCache) (host : Scope) : AuthCache := ⟨c.entries.filter (·.1 != host)⟩

/-- The logger of the cache. -/
def loggerName : String := "preemptive.auth.cache"

/-- Sets the state of a host, whether there is one or not. -/
def put (c : AuthCache) (host : Scope) (state : AuthState) : Logged AuthCache :=
  ⟨c.set host state, [.plain loggerName s!"Seeded {state.scheme.name} scheme for {host.place}"]⟩

/-- Sets the state of a host unless there is one, and gives the state the host has then. A record
    tells of it when that is the very state given. -/
def commit (c : AuthCache) (host : Scope) (state : AuthState) : Logged (AuthCache × AuthState) :=
  let (cache, current) := match c.get? host with
    | some current => (c, current)
    | none => (c.set host state, state)
  ⟨(cache, current),
    if current.serial = state.serial then
      [.plain loggerName s!"Committed {state.scheme.name} scheme for {host.place}"]
    else []⟩

end AuthCache

end Courier
