import Courier.Http.Headers
import Courier.Json.Print
import Courier.Text.Case
import Courier.Url.Basic

/-!
# Requests

A request is built from a method, a URL, header fields and a body. Building it adds the fields that
frame the body, the host of the URL, and a length of zero where a method that carries a body has
none. A body that is given in chunks is buffered by `Request.read`, and is their concatenation from
then on.
-/

namespace Courier.Http

/-- A body as a caller gives it. -/
inductive Body where
  | none
  | octets (content : Octets)
  /-- A body of unknown length. -/
  | chunks (parts : List Octets)
  | json (value : Json)

/-- The decimal text of a number as octets. -/
def decimalOctets (n : Nat) : Octets := Utf8.encode (toString n).toList

/-- The text of a JSON body; `null` is no body. -/
def jsonContent : Json → Octets
  | .null => []
  | value => Utf8.encode (value.text .compact)

/-- The octets of a body. -/
def Body.content : Body → Octets
  | none => []
  | octets content => content
  | chunks parts => parts.flatten
  | json value => jsonContent value

/-- The field that frames a body whose length is known. -/
def lengthField (content : Octets) : Field :=
  ⟨FieldName.contentLength, decimalOctets content.length⟩

/-- The fields that a body asks for. -/
def Body.fields : Body → List Field
  | none => []
  | octets content => if content.isEmpty then [] else [lengthField content]
  | chunks _ => [⟨FieldName.transferEncoding, Utf8.ofString "chunked"⟩]
  | json .null => []
  | json value =>
    [lengthField (jsonContent value), ⟨FieldName.contentType, Utf8.ofString "application/json"⟩]

/-- Adds a field that a body asks for, unless there is one of its name; a transfer encoding is not
    added to a length either. -/
def Headers.addFraming (h : Headers) (field : Field) : Headers :=
  if sameName field.name FieldName.transferEncoding && h.contains FieldName.contentLength then h
  else h.setDefault field

/-- Whether a body is there as a whole from the start. -/
def Body.isBuffered : Body → Bool
  | chunks _ => false
  | _ => true

/-- Whether a body is JSON with a number that JSON has no text for. -/
def Body.isBeyondRange : Body → Bool
  | json value => value.isBeyondRange
  | _ => false

/-- A request. -/
structure Request where
  method : String
  url : Url
  headers : Headers
  /-- The octets of the body, as they are or will be once they are read. -/
  content : Octets
  /-- Whether the body has been read. -/
  buffered : Bool
  deriving DecidableEq, Repr, Inhabited

/-- The methods that carry a body even if it is empty. -/
def bodyMethods : List String := ["POST", "PUT", "PATCH"]

/-- The methods that never enclose a body, so that sending them again cannot upload anything
    twice. -/
def nonEnclosingMethods : List String := ["GET", "HEAD", "OPTIONS", "TRACE", "DELETE"]

/-- The fields that come in front of those of a request. -/
def leadingFields (method : String) (url : Url) (h : Headers) : List Field :=
  (if h.contains FieldName.host || url.host.isEmpty then []
    else [⟨FieldName.host, Utf8.encode url.hostPort⟩])
  ++ (if h.contains FieldName.contentLength || h.contains FieldName.transferEncoding
      || !bodyMethods.contains method then []
    else [⟨FieldName.contentLength, decimalOctets 0⟩])

namespace Request

/-- Builds a request; the method is written in upper case. -/
def create (method : String) (url : Url) (headers : Headers) (body : Body) : Request :=
  let method := Text.upper method
  let headers := body.fields.foldl Headers.addFraming headers
  { method, url, headers := ⟨leadingFields method url headers ++ headers.fields⟩
    content := body.content, buffered := body.isBuffered }

/-- The request with its body read. -/
def read (r : Request) : Request := { r with buffered := true }

/-- Builds the request again from its buffered body, for a URL and header fields. -/
def rebuild (r : Request) (url : Url) (headers : Headers) : Request :=
  create r.method url headers (.octets r.content)

/-- The request line. -/
def line (r : Request) : String := s!"{r.method} {r.url} HTTP/1.1"

/-- Whether the request can be sent again without effects beyond those its method already has. -/
def isIdempotent (r : Request) : Bool := nonEnclosingMethods.contains (Text.upper r.method)

end Request

end Courier.Http
