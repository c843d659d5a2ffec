import Courier.Url.Parse

/-!
# References

A reference is the text of a URL split for resolution into scheme, network location, path,
parameters, query and fragment; an empty query or fragment counts as missing here. A network
location may have brackets around an IPv6 address, or an address of a future version, and nowhere
else.
-/

namespace Courier.Url

/-- A reference split for resolution. -/
structure Reference where
  scheme : List Char
  location : List Char
  path : List Char
  parameters : List Char
  query : List Char
  fragment : List Char
  deriving DecidableEq, Repr

/-- Whether a text has the form of an address of a future version: `v`, hexadecimal digits, a point
    and anything. -/
def isFutureAddress : List Char → Bool
  | 'v' :: rest =>
    Text.isHexDigit (rest.headD ' ')
      && (rest.dropWhile Text.isHexDigit).head? == some '.'
      && 2 ≤ (rest.dropWhile Text.isHexDigit).length
  | _ => false

/-- Refuses a host between brackets that is no address for them. -/
def checkBracketed (host : List Char) : Except AddressError Unit :=
  if host.head? = some 'v' then
    if isFutureAddress host then .ok () else .error .futureAddress
  else if Host.isIpv4 host then .error .bracketedIpv4
  else if Host.isIpv6 host then .ok ()
  else .error (.noAddress host)

/-- The host of a network location that has brackets somewhere. After the user information, nothing
    stands in front of them and at most a port behind. -/
def bracketedHost (location : List Char) : Except AddressError (List Char) :=
  let rest := (splitAtLast '@' location).2
  if rest.contains '[' then
    let inner := rest.drop 1
    let after := (inner.dropWhile (· ≠ ']')).drop 1
    if rest.head? = some '[' ∧ (after.isEmpty ∨ after.head? = some ':') then
      .ok (inner.takeWhile (· ≠ ']'))
    else .error .brackets
  else .ok (rest.takeWhile (· ≠ ':'))

/-- Refuses a network location whose brackets do not enclose an address. -/
def checkLocation (location : List Char) : Except AddressError Unit :=
  match location.contains '[', location.contains ']' with
  | false, false => .ok ()
  | true, true => do checkBracketed (← bracketedHost location)
  | _, _ => .error .brackets

/-- The schemes whose last path segment may carry parameters after a semicolon. -/
def parameterSchemes : List String :=
  ["", "ftp", "hdl", "prospero", "http", "imap", "https", "shttp", "rtsp", "rtspu", "sip", "sips",
    "mms", "sftp", "tel"]

/-- Splits a scheme off a reference, which starts with a letter; `default` is the scheme of a
    reference without one. -/
def splitReferenceScheme (default cs : List Char) : List Char × List Char :=
  match splitScheme cs with
  | ([], _) => (default, cs)
  | (scheme, rest) => (scheme.map Char.toLower, rest)

/-- Splits the parameters off the last segment of a path. -/
def splitParameters (path : List Char) : List Char × List Char :=
  let (before, last) := splitAtLast '/' path
  let segment := last.takeWhile (· ≠ ';')
  let parameters := (last.dropWhile (· ≠ ';')).drop 1
  match before with
  | some before => (before ++ '/' :: segment, parameters)
  | none => (segment, parameters)

/-- Splits a text, whose path keeps its parameters; `default` is the scheme of a text without
    one. -/
def Reference.split (default cs : List Char) : Except AddressError Reference := do
  let (scheme, rest) := splitReferenceScheme default cs
  let (location, rest) := splitAuthority rest
  checkLocation location
  let (query, after) := splitQuery (rest.dropWhile (!endsPath ·))
  return { scheme, location, path := rest.takeWhile (!endsPath ·), parameters := []
           query := query.getD [], fragment := (readFragment after).getD [] }

/-- Splits a text for resolution; `default` is the scheme of a text without one. -/
def Reference.ofText (default cs : List Char) : Except AddressError Reference := do
  let r ← Reference.split default cs
  if parameterSchemes.contains (String.ofList r.scheme) then
    let (path, parameters) := splitParameters r.path
    return { r with path, parameters }
  else return r

/-- The text of a split reference whose scheme is one of `relativeSchemes`. -/
def Reference.text (r : Reference) : List Char :=
  let path := if r.parameters.isEmpty then r.path else r.path ++ ';' :: r.parameters
  let rest :=
    if !r.location.isEmpty || (!r.scheme.isEmpty && path.take 2 != ['/', '/']) then
      let path := if path.isEmpty || path.head? == some '/' then path else '/' :: path
      '/' :: '/' :: r.location ++ path
    else path
  (if r.scheme.isEmpty then rest else r.scheme ++ ':' :: rest)
    ++ (if r.query.isEmpty then [] else '?' :: r.query)
    ++ (if r.fragment.isEmpty then [] else '#' :: r.fragment)

end Courier.Url
