import Courier.Codecs
import Courier.Url.Parse

/-!
# Names of hosts

The host of a URL is kept in ASCII. Where its first label stands for another one, the host goes by
the name that it stands for, and not every such host stands for a name.
-/

namespace Courier.Url

variable [Codecs]

/-- Reads a URL. -/
def read (cs : List Char) : Except Error Url := readWith Codecs.asciiForm? cs

/-- The URL with another host; one with a colon is bracketed. -/
def withHost (u : Url) (host : List Char) : Except Error Url := do
  let host := if host.contains ':' && !Host.isBracketed host then '[' :: host ++ [']'] else host
  u.parts.check
  checkComponent .host host
  assemble Codecs.asciiForm? u.parts { Authority.ofText u.authority with host }

/-- The name that the host goes by. -/
def name (u : Url) : Except NameError (List Char) :=
  if formPrefix.isPrefixOf u.host then Codecs.nameOf u.host else .ok u.host

/-- The name that the host goes by; one that stands for no name goes by itself. -/
def hostName (u : Url) : List Char := u.name.toOption.getD u.host

end Courier.Url
