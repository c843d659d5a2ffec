import Courier.Text.Quoted

/-!
# What is wrong with a text that is no URL
-/

namespace Courier.Url

/-- A component of a URL that can be given on its own. -/
inductive Component where
  | scheme
  | authority
  | path
  | query
  | fragment
  | userinfo
  | host
  deriving DecidableEq, Repr

/-- The name of a component. -/
def Component.name : Component → String
  | scheme => "scheme"
  | authority => "authority"
  | path => "path"
  | query => "query"
  | fragment => "fragment"
  | userinfo => "userinfo"
  | host => "host"

/-- What is wrong with a URL as the address of a request, or as a reference to resolve. -/
inductive AddressError where
  /-- The text, as far as it is looked at, does not start with a type and a colon. -/
  | untyped (text : List Char)
  /-- The brackets of the network location do not enclose its host. -/
  | brackets
  /-- The bracketed host starts like an address of a future version and is none. -/
  | futureAddress
  /-- The bracketed host is an IPv4 address. -/
  | bracketedIpv4
  /-- The bracketed host is no address. -/
  | noAddress (host : List Char)
  deriving DecidableEq, Repr

/-- The wording of what is wrong with an address. -/
def AddressError.message : AddressError → String
  | untyped text => s!"unknown url type: {String.ofList (Text.quoted text)}"
  | brackets => "Invalid IPv6 URL"
  | futureAddress => "IPvFuture address is invalid"
  | bracketedIpv4 => "An IPv4 address cannot be in brackets"
  | noAddress host =>
    s!"{String.ofList (Text.quoted host)} does not appear to be an IPv4 or IPv6 address"

/-- Why a text, or the components given for a URL, form none. -/
inductive Error where
  /-- The text is longer than a URL may be. -/
  | tooLong
  /-- The text has an ASCII control character, the first one here. -/
  | control (c : Char) (position : Nat)
  /-- A component given on its own is longer than a URL may be. -/
  | componentTooLong (component : Component)
  /-- A component given on its own has an ASCII control character, the first one here. -/
  | componentControl (component : Component) (c : Char) (position : Nat)
  /-- The host looks like an IPv4 address and is none. -/
  | ipv4 (host : List Char)
  /-- The bracketed host is no IPv6 address. -/
  | ipv6 (host : List Char)
  /-- The host name has characters outside ASCII, and no ASCII form. -/
  | international (host : List Char)
  /-- The port is no integer. -/
  | port (text : List Char)
  /-- The path after an authority does not start with a slash. -/
  | rootlessPath
  /-- The path of a relative URL starts with two slashes. -/
  | doubleSlash
  /-- The path of a relative URL starts with a colon. -/
  | leadingColon
  | address (error : AddressError)
  deriving DecidableEq, Repr

/-- The wording of an error. -/
def Error.message : Error → String
  | tooLong => "URL too long"
  | control c position =>
    s!"Invalid non-printable ASCII character in URL, {Text.quotedString (String.singleton c)} "
      ++ s!"at position {position}."
  | componentTooLong component => s!"URL component '{component.name}' too long"
  | componentControl component c position =>
    s!"Invalid non-printable ASCII character in URL {component.name} component, "
      ++ s!"{Text.quotedString (String.singleton c)} at position {position}."
  | ipv4 host => s!"Invalid IPv4 address: {String.ofList (Text.quoted host)}"
  | ipv6 host => s!"Invalid IPv6 address: {String.ofList (Text.quoted host)}"
  | international host => s!"Invalid IDNA hostname: {String.ofList (Text.quoted host)}"
  | port text => s!"Invalid port: {String.ofList (Text.quoted text)}"
  | rootlessPath => "For absolute URLs, path must be empty or begin with '/'"
  | doubleSlash => "Relative URLs cannot have a path starting with '//'"
  | leadingColon => "Relative URLs cannot have a path starting with ':'"
  | address error => error.message

end Courier.Url
