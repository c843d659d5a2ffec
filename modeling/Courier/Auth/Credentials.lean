import Courier.Text.Base64
import Courier.Text.Raw

/-!
# Credentials

A user name and a password, and the value of the header that presents them, which they have unless
one of them holds surrogates by themselves. A password is never shown.
-/

namespace Courier

/-- A user name and a password. -/
structure Credentials where
  username : RawText
  password : RawText := ""
  deriving DecidableEq, Repr, Inhabited

namespace Credentials

/-- The octets that are presented: the user name, a colon and the password. -/
def octets (c : Credentials) : Except RawText.Unencodable Octets :=
  (c.username ++ (":" : RawText) ++ c.password).encode

/-- The value of the header that presents octets by the basic scheme. -/
def basicValue (octets : Octets) : List Char :=
  ['B', 'a', 's', 'i', 'c', ' '] ++ Base64.encode octets

/-- The value of the header that presents the credentials by the basic scheme. -/
def basicHeader (c : Credentials) : Except RawText.Unencodable (List Char) :=
  c.octets.map basicValue

/-- The text that shows credentials. -/
def shown (c : Credentials) : String :=
  s!"Credentials(username={c.username.quoted}, password='***')"

end Credentials

end Courier
