import Courier.Url.Basic
import Courier.Url.Host
import Courier.Url.Port

/-!
# Reading URLs

A text is split into the five parts of a URL reference, the authority is split further, and each
component is brought to its normal form; `Url.readWith` does all of it. The replacing functions take
a URL back to its parts, put another component in and read the parts again, so that a component
given decoded is encoded.

The text of a URL is in ASCII. So nothing has to be known about other names to read a URL again,
which is what `Url.parse` does, and the functions that do not take a host.

Of several faults the first in this order is reported: the length, control characters, the host, the
port, the path.
-/

namespace Courier.Url

/-- The greatest number of characters of a URL, and of a component given on its own. -/
def maxLength : Nat := 65536

/-- The five parts of a reference, as they are written. -/
structure Parts where
  scheme : List Char
  authority : List Char
  path : List Char
  query : Option (List Char)
  fragment : Option (List Char)
  deriving DecidableEq, Repr

/-- The three components of an authority, as they are written. -/
structure Authority where
  userinfo : List Char
  host : List Char
  port : List Char
  deriving DecidableEq, Repr

/-- Whether a text is empty or a scheme name: a letter, then letters, digits, `+`, `-` and `.`. -/
def isSchemeName : List Char → Bool
  | [] => true
  | c :: rest =>
    c.isAlpha && rest.all fun c => c.isAlphanum || c == '+' || c == '-' || c == '.'

/-- Splits a scheme name and its colon off a text. -/
def splitScheme (cs : List Char) : List Char × List Char :=
  match cs.dropWhile (· ≠ ':') with
  | ':' :: rest =>
    let name := cs.takeWhile (· ≠ ':')
    if isSchemeName name then (name, rest) else ([], cs)
  | _ => ([], cs)

/-- Whether a character ends an authority. -/
def endsAuthority (c : Char) : Bool := c == '/' || c == '?' || c == '#'

/-- Whether a character ends a path. -/
def endsPath (c : Char) : Bool := c == '?' || c == '#'

/-- Splits two slashes and the authority after them off a text. -/
def splitAuthority : List Char → List Char × List Char
  | '/' :: '/' :: rest =>
    (rest.takeWhile (!endsAuthority ·), rest.dropWhile (!endsAuthority ·))
  | rest => ([], rest)

/-- Splits a query off the text that follows a path. -/
def splitQuery : List Char → Option (List Char) × List Char
  | '?' :: rest => (some (rest.takeWhile (· ≠ '#')), rest.dropWhile (· ≠ '#'))
  | rest => (none, rest)

/-- The fragment that the text after a query is. -/
def readFragment : List Char → Option (List Char)
  | '#' :: rest => some rest
  | _ => none

/-- The parts of a text. -/
def Parts.ofText (cs : List Char) : Parts :=
  let (scheme, rest) := splitScheme cs
  let (authority, rest) := splitAuthority rest
  let (query, after) := splitQuery (rest.dropWhile (!endsPath ·))
  { scheme, authority, path := rest.takeWhile (!endsPath ·), query, fragment := readFragment after }

/-- Splits a text at the last occurrence of a character: what comes before it, if it occurs, and
    what comes after it. -/
def splitAtLast (c : Char) (cs : List Char) : Option (List Char) × List Char :=
  let after := (cs.reverse.takeWhile (· ≠ c)).reverse
  if cs.contains c then (some (cs.take (cs.length - after.length - 1)), after) else (none, cs)

/-- Splits the host off what follows the user information: up to the last closing bracket if the
    text starts with an opening one, and up to the first colon otherwise. -/
def splitHost (cs : List Char) : List Char × List Char :=
  match cs.head?, splitAtLast ']' cs with
  | some '[', (some before, after) => (before ++ [']'], after)
  | _, _ => (cs.takeWhile (· ≠ ':'), cs.dropWhile (· ≠ ':'))

/-- The components of an authority. -/
def Authority.ofText (cs : List Char) : Authority :=
  let (userinfo, rest) := splitAtLast '@' cs
  let (host, rest) := splitHost rest
  let port := if rest.head? = some ':' then rest.drop 1 else rest
  { userinfo := userinfo.getD [], host, port }

/-- Whether a character is an ASCII control character. -/
def isControl (c : Char) : Bool := c.toNat < 32 || c.toNat == 127

/-- The first control character of a text and its position. -/
def findControl? (cs : List Char) : Option (Char × Nat) :=
  (cs.find? isControl).map fun c => (c, cs.findIdx isControl)

/-- Whether a printable ASCII character stands for itself in a component that excludes some. -/
def keepsExcept (excluded : String) (c : Char) : Bool :=
  32 ≤ c.toNat && c.toNat < 127 && !excluded.toList.contains c

/-- Whether a character stands for itself in a fragment. -/
def keepsInFragment : Char → Bool := keepsExcept " \"<>`"

/-- Whether a character stands for itself in a query. -/
def keepsInQuery : Char → Bool := keepsExcept " \"#<>"

/-- Whether a character stands for itself in a path. -/
def keepsInPath : Char → Bool := keepsExcept " \"#<>?`\x7b\x7d"

/-- Whether a character stands for itself in user information. -/
def keepsInUserinfo : Char → Bool := keepsExcept " \"#<>?`\x7b\x7d/;=@[\\]^|"

/-- Follows the segments of a path: `.` is skipped and `..` takes back the last segment, unless none
    but an empty first one is left. -/
def resolveDots (segments : List (List Char)) : List (List Char) :=
  segments.foldl (fun output segment =>
    if segment = ['.'] then output
    else if segment = ['.', '.'] then
      if output = [[]] then output else output.dropLast
    else output ++ [segment]) []

/-- Segments with slashes between them. -/
def joinSegments (segments : List (List Char)) : List Char :=
  ['/'].intercalate segments

/-- A path without dot segments. -/
def removeDots (path : List Char) : List Char :=
  let segments := Host.splitOn '/' path
  if segments.any fun s => s == ['.'] || s == ['.', '.'] then joinSegments (resolveDots segments)
  else path

/-- The normal form of a path before it is encoded, given whether there is a scheme and an
    authority. -/
def normalizePath (hasScheme hasAuthority : Bool) (path : List Char) : Except Error (List Char) :=
  if hasAuthority && !path.isEmpty && path.head? != some '/' then .error .rootlessPath
  else if hasScheme || hasAuthority then .ok (removeDots path)
  else if path.take 2 = ['/', '/'] then .error .doubleSlash
  else if path.head? = some ':' then .error .leadingColon
  else .ok path

/-- The URL of parts whose authority has already been split. -/
def assemble (asciiForm? : List Char → Option (List Char)) (parts : Parts)
    (authority : Authority) : Except Error Url := do
  let userinfo := Percent.encode keepsInUserinfo authority.userinfo
  let host ← Host.normalize asciiForm? authority.host
  let port ← Port.normalize parts.scheme authority.port
  let path ← normalizePath (!parts.scheme.isEmpty)
    (!userinfo.isEmpty || !host.isEmpty || port.isSome) parts.path
  return {
    scheme := parts.scheme.map Char.toLower
    userinfo, host, port
    path := Percent.encode keepsInPath path
    query := parts.query.map (Percent.encode keepsInQuery)
    fragment := parts.fragment.map (Percent.encode keepsInFragment) }

/-- Reads a URL, where names outside ASCII have these ASCII forms. -/
def readWith (asciiForm? : List Char → Option (List Char)) (cs : List Char) : Except Error Url :=
  if maxLength < cs.length then .error .tooLong
  else
    match findControl? cs with
    | some (c, position) => .error (.control c position)
    | none =>
      let parts := Parts.ofText cs
      assemble asciiForm? parts (Authority.ofText parts.authority)

/-- Reads a URL whose host is in ASCII. -/
def parse (cs : List Char) : Except Error Url := readWith Host.noForm cs

/-- The parts a URL is read again from. -/
def parts (u : Url) : Parts where
  scheme := u.scheme
  authority := u.authority
  path := u.path
  query := u.query
  fragment := u.fragment

/-- Refuses a component given on its own that is too long or has a control character. -/
def checkComponent (component : Component) (cs : List Char) : Except Error Unit :=
  if maxLength < cs.length then .error (.componentTooLong component)
  else
    match findControl? cs with
    | some (c, position) => .error (.componentControl component c position)
    | none => .ok ()

/-- Refuses parts of which one is too long or has a control character. -/
def Parts.check (parts : Parts) : Except Error Unit := do
  checkComponent .scheme parts.scheme
  checkComponent .authority parts.authority
  checkComponent .path parts.path
  checkComponent .query (parts.query.getD [])
  checkComponent .fragment (parts.fragment.getD [])

/-- The URL of parts that are given on their own. -/
def ofParts (parts : Parts) : Except Error Url := do
  parts.check
  assemble Host.noForm parts (Authority.ofText parts.authority)

/-- The URL with another fragment, given decoded. -/
def withFragment (u : Url) (fragment : List Char) : Except Error Url :=
  ofParts { u.parts with fragment := some fragment }

/-- The URL without user information. -/
def withoutUserinfo (u : Url) : Except Error Url := do
  u.parts.check
  assemble Host.noForm u.parts { Authority.ofText u.authority with userinfo := [] }

/-- The URL that a path and query alone form, with one slash in front and no fragment. -/
def rooted (u : Url) : Except Error Url :=
  let target := '/' :: u.target.dropWhile (· = '/')
  ofParts {
    scheme := [], authority := [], path := target.takeWhile (· ≠ '?')
    query := (splitQuery (target.dropWhile (· ≠ '?'))).1, fragment := none }

end Courier.Url
