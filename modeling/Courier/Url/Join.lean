import Courier.Url.Reference

/-!
# Resolving a reference against a base

`Url.join base u` is the target of the reference `u` found at `base`. It works on the texts of both:
each is split, the missing parts are taken from the base, and the outcome is put together and read
as a URL again.
-/

namespace Courier.Url

/-- The schemes whose references are resolved against a base. -/
def relativeSchemes : List String :=
  ["", "ftp", "http", "gopher", "nntp", "imap", "wais", "file", "https", "shttp", "mms", "prospero",
    "rtsp", "rtspu", "sftp", "svn", "svn+ssh", "ws", "wss"]

/-- The segments of a relative path after those of a base path, whose last segment is dropped; the
    empty ones among them are dropped, except the first and the last. -/
def mergeSegments (base path : List Char) : List (List Char) :=
  let baseSegments := Host.splitOn '/' base
  let kept := if baseSegments.getLast? = some [] then baseSegments else baseSegments.dropLast
  let segments := kept ++ Host.splitOn '/' path
  match segments with
  | [] => []
  | first :: rest => first :: rest.dropLast.filter (!·.isEmpty) ++ rest.getLast?.toList

/-- Follows segments: `.` is skipped and `..` takes back the last segment, if there is one. A path
    that ends in either ends in a slash. -/
def followSegments (segments : List (List Char)) : List Char :=
  let followed := segments.foldl (fun output segment =>
    if segment = ['.', '.'] then output.dropLast
    else if segment = ['.'] then output
    else output ++ [segment]) []
  let last := segments.getLast?
  let followed := if last = some ['.'] ∨ last = some ['.', '.'] then followed ++ [[]] else followed
  let path := joinSegments followed
  if path.isEmpty then ['/'] else path

/-- A reference with the parts that it lacks taken from a base of the same scheme. -/
def Reference.against (r b : Reference) : Reference :=
  if !r.location.isEmpty then r
  else if r.path.isEmpty && r.parameters.isEmpty then
    let query := if r.query.isEmpty then b.query else r.query
    { r with location := b.location, path := b.path, parameters := b.parameters, query }
  else
    let segments :=
      if r.path.head? = some '/' then Host.splitOn '/' r.path else mergeSegments b.path r.path
    { r with location := b.location, path := followSegments segments }

/-- The text of a reference resolved against a base. -/
def resolveText (base reference : List Char) : Except AddressError (List Char) :=
  if base.isEmpty then .ok reference
  else if reference.isEmpty then .ok base
  else do
    let b ← Reference.ofText [] base
    let r ← Reference.ofText b.scheme reference
    if r.scheme ≠ b.scheme ∨ !relativeSchemes.contains (String.ofList r.scheme) then
      return reference
    else return (r.against b).text

/-- The target of a reference found at a base. -/
def join (base reference : Url) : Except Error Url := do
  parse (← (resolveText base.text reference.text).mapError .address)

end Courier.Url
