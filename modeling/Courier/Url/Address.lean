import Courier.Text.Case
import Courier.Url.Reference

/-!
# The address of a request

As the address of a request, a URL has to start with a type, and its network location has to be
sound. The mark `URL:` in front is not looked at, nor is a number sign at the end. A type may be a
word that is no scheme; the server is what follows two slashes after it.
-/

namespace Courier.Url

/-- The address of a request. -/
structure Address where
  /-- The type in lower case. -/
  type : List Char
  /-- The server to connect to, decoded. -/
  server : Option (List Char)
  reference : Reference
  deriving DecidableEq, Repr

namespace Address

/-- The text without a mark that it is a URL. -/
def withoutMark : List Char → List Char
  | 'U' :: 'R' :: 'L' :: ':' :: rest => rest
  | cs => cs

/-- The type at the start of a text, and what follows the colon after it. -/
def splitType? (cs : List Char) : Option (List Char × List Char) :=
  let word := cs.takeWhile fun c => c != '/' && c != ':'
  match word, cs.drop word.length with
  | _ :: _, ':' :: rest => some ((Text.lower (String.ofList word)).toList, rest)
  | _, _ => none

/-- The server in what follows a type. -/
def server? : List Char → Option (List Char)
  | '/' :: '/' :: rest => some (Percent.decode (rest.takeWhile (!"/?#".toList.contains ·)))
  | _ => none

/-- The address a text gives. The type is looked for in front of the fragment. -/
def ofText (cs : List Char) : Except AddressError Address :=
  let cs := withoutMark cs
  let (front, fragment) := match splitAtLast '#' cs with
    | (some front, fragment) => (front, fragment)
    | (none, _) => (cs, [])
  let text := if fragment.isEmpty then front else front ++ '#' :: fragment
  match splitType? front with
  | some (type, rest) => (Reference.split [] text).map (⟨type, server? rest, ·⟩)
  | none => .error (.untyped text)

end Address

end Courier.Url
