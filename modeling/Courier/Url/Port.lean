import Courier.Text.Integer
import Courier.Url.Error

/-!
# Ports

The port of a URL is an integer as a text may write one; there is no range. The default port of the
scheme is left out.
-/

namespace Courier.Url.Port

/-- The default port of a scheme. -/
def default? (scheme : List Char) : Option Int :=
  if scheme = ['f', 't', 'p'] then some 21
  else if scheme = ['h', 't', 't', 'p'] ∨ scheme = ['w', 's'] then some 80
  else if scheme = ['h', 't', 't', 'p', 's'] ∨ scheme = ['w', 's', 's'] then some 443
  else none

/-- The normal form of a port; the scheme is compared as it is written. -/
def normalize (scheme cs : List Char) : Except Error (Option Int) :=
  if cs.isEmpty then .ok none
  else
    match Text.integer? cs with
    | none => .error (.port cs)
    | some n => .ok (if default? scheme = some n then none else some n)

end Courier.Url.Port
