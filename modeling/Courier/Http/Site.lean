import Courier.Http.Headers
import Courier.Text.Integer
import Courier.Url.Address

/-!
# Sites

A site is where a request goes, as far as cookies are concerned: a host, a port, a path, and whether
the way there is secure. A URL without a network location leaves the host to the `Host` field of the
request, and nothing can be said about the port without a server.

Paths are compared in a form in which every character that a path may not have is an escape, and all
escapes are in upper case.
-/

namespace Courier.Http

/-- Why cookies cannot be exchanged with the site of a request. -/
inductive SiteError where
  /-- A header field is not found under its name. -/
  | lostField (name : List Char)
  | address (error : Url.AddressError)
  /-- The port is asked for, and the address has no server. -/
  | hostless
  /-- The fields of the request cannot hold a text. -/
  | unencodable (error : Charset.Unencodable)
  deriving DecidableEq, Repr

/-- The wording of an error. -/
def SiteError.message : SiteError → String
  | lostField name => String.ofList (Text.quoted name)
  | address error => error.message
  | hostless => "'NoneType' object has no attribute 'find'"
  | unencodable error => error.message

/-- The site of a request. -/
structure Site where
  /-- The host in lower case, without a port. -/
  host : List Char
  /-- The path with a slash at its start. -/
  path : List Char
  isSecure : Bool
  /-- The server to connect to, with the port. -/
  server : Option (List Char)
  deriving DecidableEq, Repr

/-- Whether a text ends in another one. -/
def endsIn (part whole : List Char) : Bool := part.reverse.isPrefixOf whole.reverse

namespace Site

/-- A host without a port at its end. -/
def withoutPort (host : List Char) : List Char :=
  let digits := host.reverse.takeWhile Char.isDigit
  match digits, host.reverse.drop digits.length with
  | _ :: _, ':' :: rest => rest.reverse
  | _, _ => host

/-- Whether a path may have a character. -/
def isPathChar (c : Char) : Bool := c.isAlphanum || "_.-~%/;:@&=+$,!*'()".toList.contains c

/-- A text with its escapes in upper case. -/
def raiseEscapes : List Char → List Char
  | '%' :: a :: b :: rest =>
    if Text.isHexDigit a && Text.isHexDigit b then '%' :: a.toUpper :: b.toUpper ::
      raiseEscapes rest
    else '%' :: raiseEscapes (a :: b :: rest)
  | c :: rest => c :: raiseEscapes rest
  | [] => []

/-- The form in which paths are compared. -/
def comparedPath (path : List Char) : List Char := raiseEscapes (Percent.encode isPathChar path)

/-- The types of addresses to which the way is secure. -/
def secureTypes : List String := ["https", "wss"]

/-- The site of a request for a URL with these fields. -/
def ofRequest (url : Url) (headers : Headers) : Except SiteError Site :=
  match headers.lostName?, Url.Address.ofText url.text with
  | some name, _ => .error (.lostField name)
  | none, .error error => .error (.address error)
  | none, .ok address =>
    let location := address.reference.location
    let host := if location.isEmpty then (headers.get? FieldName.host).getD [] else location
    let path := comparedPath address.reference.path
    .ok {
      host := (Text.lower (String.ofList (withoutPort host))).toList
      path := if path.head? = some '/' then path else '/' :: path
      isSecure := secureTypes.contains (String.ofList address.type)
      server := address.server }

/-- What the name of a local host is given at its end. -/
def localEnding : List Char := ".local".toList

/-- The host with an ending for local hosts, which have no point. -/
def fullHost (site : Site) : List Char :=
  if site.host.contains '.' then site.host else site.host ++ localEnding

/-- The port: that of the server, 80 if it has none, and nothing if it is no number. -/
def port? (site : Site) : Except SiteError (Option (List Char)) :=
  match site.server.map (·.dropWhile (· ≠ ':')) with
  | none => .error .hostless
  | some [] => .ok (some ['8', '0'])
  | some (_ :: port) => .ok (if (Text.integer? port).isSome then some port else none)

/-- The path of cookies that name none: that of the request up to its last slash, which cookies of
    later versions keep. -/
def directory (site : Site) (keepsSlash : Bool) : List Char :=
  match (Url.splitAtLast '/' site.path).1 with
  | some (c :: rest) => c :: rest ++ if keepsSlash then ['/'] else []
  | _ => ['/']

/-- Whether a path is that of the site or leads to it. -/
def isUnder (site : Site) (path : List Char) : Bool :=
  site.path == path || path.isPrefixOf site.path &&
    (path.getLast? == some '/' || site.path[path.length]? == some '/')

/-- A host or domain with a point in front. -/
def pointed (name : List Char) : List Char := if name.head? = some '.' then name else '.' :: name

/-- Whether the site is in a domain. -/
def isIn (site : Site) (domain : List Char) : Bool :=
  endsIn (pointed domain) (pointed site.host) || endsIn (pointed domain) (pointed site.fullHost)

end Site

end Courier.Http
