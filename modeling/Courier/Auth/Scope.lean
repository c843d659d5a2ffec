import Courier.Text.Case
import Courier.Text.Quoted
import Courier.Url.Name

/-!
# Scopes

A scope says which targets a credential applies to: a host and a port, each of which may be left
open. Hosts are compared without regard to case, so a scope holds its host in lower case; `Scope.of`
builds scopes that way. The host of a URL is known to scopes by its name.
-/

namespace Courier

/-- A host and a port; a missing one stands for any. The host is in lower case. -/
structure Scope where
  host : Option String
  port : Option Int
  deriving DecidableEq, Repr, Inhabited

namespace Scope

/-- The scope of every target. -/
def any : Scope := ⟨none, none⟩

/-- The scope of a host and a port. -/
def of (host : Option String) (port : Option Int) : Scope := ⟨host.map Text.lower, port⟩

/-- The port of a scheme for URLs that name none. -/
def defaultPort (scheme : List Char) : Int :=
  if scheme = ['h', 't', 't', 'p', 's'] then 443 else 80

/-- The exact scope of a URL whose host goes by this name. -/
def named (u : Url) (name : List Char) : Scope :=
  of (some (String.ofList name)) (some (u.port.getD (defaultPort u.scheme)))

/-- The exact scope of a URL, if its host stands for a name. -/
def ofUrl [Codecs] (u : Url) : Except NameError Scope := u.name.map (named u)

/-- Whether the scope is that of every target. -/
def isWildcard (s : Scope) : Bool := s.host.isNone && s.port.isNone

/-- How well one component of a registered scope fits the same one of a target: its weight when
    they are equal, nothing when one of them is open, and not at all otherwise. -/
def componentScore? {α : Type} [DecidableEq α] (weight : Int) (own other : Option α) : Option Int :=
  if own = other then some weight
  else if own.isSome && other.isSome then none
  else some 0

/-- How well a registered scope fits the target: four for an equal port and eight for an equal host,
    or `-1` when they conflict. -/
def score (target registered : Scope) : Int :=
  match componentScore? 4 target.port registered.port,
    componentScore? 8 target.host registered.host with
  | some port, some host => port + host
  | _, _ => -1

/-- The text of a port, or `None`. -/
def portText (s : Scope) : String :=
  match s.port with
  | some port => toString port
  | none => "None"

/-- The text that shows a scope. -/
def shown (s : Scope) : String := s!"AuthScope(host={Text.quotedOption s.host}, port={s.portText})"

/-- The host and the port as log messages name them. -/
def place (s : Scope) : String := s.host.getD "None" ++ ":" ++ s.portText

end Scope

end Courier
