import Courier.Text.Percent

/-!
# URLs

A URL is kept in its normal form: scheme and registered host names in lower case, every component
percent-encoded, an IPv6 host without its brackets, and no port that is the default one of the
scheme. Components are lists of characters. A query or fragment that is present but empty differs
from a missing one in the text of the URL and nowhere else.
-/

namespace Courier

/-- A URL in normal form, absolute or relative. -/
structure Url where
  scheme : List Char
  userinfo : List Char
  host : List Char
  port : Option Int
  path : List Char
  query : Option (List Char)
  fragment : Option (List Char)
  deriving DecidableEq, Repr, Inhabited

namespace Url

/-- The decimal text of a port. -/
def portText (port : Int) : List Char := (toString port).toList

/-- The host as it stands in a text: an IPv6 address is bracketed. -/
def hostText (u : Url) : List Char :=
  if u.host.contains ':' then '[' :: u.host ++ [']'] else u.host

/-- The host and the port, as the `Host` header names them. -/
def hostPort (u : Url) : List Char :=
  u.hostText ++ (match u.port with
    | some port => ':' :: portText port
    | none => [])

/-- The authority: user information, host and port. -/
def authority (u : Url) : List Char :=
  (if u.userinfo.isEmpty then [] else u.userinfo ++ ['@']) ++ u.hostPort

/-- The text of a URL. -/
def text (u : Url) : List Char :=
  (if u.scheme.isEmpty then [] else u.scheme ++ [':'])
    ++ (if u.authority.isEmpty then [] else '/' :: '/' :: u.authority)
    ++ u.path
    ++ (match u.query with
      | some query => '?' :: query
      | none => [])
    ++ (match u.fragment with
      | some fragment => '#' :: fragment
      | none => [])

instance : ToString Url := ⟨fun u => String.ofList u.text⟩

/-- Whether the URL names its target by itself, by a scheme and a host. -/
def isAbsolute (u : Url) : Bool := !u.scheme.isEmpty && !u.host.isEmpty

/-- The user name of the URL, decoded. -/
def username (u : Url) : List Char := Percent.decode (u.userinfo.takeWhile (· ≠ ':'))

/-- The password of the URL, decoded. -/
def password (u : Url) : List Char := Percent.decode ((u.userinfo.dropWhile (· ≠ ':')).drop 1)

/-- The fragment of the URL, decoded; empty when there is none. -/
def fragmentText (u : Url) : List Char := Percent.decode (u.fragment.getD [])

/-- The path and the query as a request line names them. -/
def target (u : Url) : List Char :=
  (if u.path.isEmpty then ['/'] else u.path) ++ (match u.query with
    | some query => '?' :: query
    | none => [])

end Url

end Courier
