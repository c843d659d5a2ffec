import Courier.Text.Case
import Courier.Text.Charset

/-!
# Header fields

Fields keep their order, their case and their duplicates. Names are compared without regard to ASCII
case. Reading a name gives its values with a comma and a space between them, in the charset that
fits all names and values.
-/

namespace Courier

namespace Http

/-- A header field. -/
structure Field where
  name : Octets
  value : Octets
  deriving DecidableEq, Repr, Inhabited

/-- An octet with an ASCII capital letter lowered. -/
def lowerOctet (b : UInt8) : UInt8 := if 0x41 ≤ b ∧ b ≤ 0x5a then b + 0x20 else b

/-- Whether two field names are the same. -/
def sameName (a b : Octets) : Bool := a.map lowerOctet == b.map lowerOctet

namespace FieldName

def accept : Octets := Utf8.ofString "Accept"
def acceptEncoding : Octets := Utf8.ofString "Accept-Encoding"
def authorization : Octets := Utf8.ofString "Authorization"
def connection : Octets := Utf8.ofString "Connection"
def contentEncoding : Octets := Utf8.ofString "Content-Encoding"
def contentLength : Octets := Utf8.ofString "Content-Length"
def contentType : Octets := Utf8.ofString "Content-Type"
def cookie : Octets := Utf8.ofString "Cookie"
def host : Octets := Utf8.ofString "Host"
def location : Octets := Utf8.ofString "Location"
def proxyAuthorization : Octets := Utf8.ofString "Proxy-Authorization"
def setCookie : Octets := Utf8.ofString "Set-Cookie"
def transferEncoding : Octets := Utf8.ofString "Transfer-Encoding"
def userAgent : Octets := Utf8.ofString "User-Agent"

end FieldName

/-- Header fields in their order. -/
structure Headers where
  fields : List Field
  deriving DecidableEq, Repr, Inhabited

namespace Headers

/-- No fields. -/
def empty : Headers := ⟨[]⟩

/-- Whether there is a field of a name. -/
def contains (h : Headers) (name : Octets) : Bool := h.fields.any (sameName ·.name name)

/-- Sets a field: the first one of its name is replaced and the others are removed, and without one
    the field comes last. -/
def set (h : Headers) (field : Field) : Headers :=
  match h.fields.span (!sameName ·.name field.name) with
  | (before, _ :: after) => ⟨before ++ field :: after.filter (!sameName ·.name field.name)⟩
  | (before, []) => ⟨before ++ [field]⟩

/-- Adds a field unless there is one of its name. -/
def setDefault (h : Headers) (field : Field) : Headers :=
  if h.contains field.name then h else ⟨h.fields ++ [field]⟩

/-- The fields of other names than this one. -/
def erase (h : Headers) (name : Octets) : Headers := ⟨h.fields.filter (!sameName ·.name name)⟩

/-- The charset of the fields. -/
def charset (h : Headers) : Charset :=
  .fitting (h.fields.flatMap fun field => [field.name, field.value])

/-- The names of the fields as texts, in which the ASCII letters are in lower case. -/
def names (h : Headers) : List (List Char) :=
  let charset := h.charset
  h.fields.map fun field => charset.decode (field.name.map lowerOctet)

/-- The values of a name. -/
def getAll (h : Headers) (name : Octets) : List (List Char) :=
  let charset := h.charset
  (h.fields.filter (sameName ·.name name)).map fun field => charset.decode field.value

/-- The values of a name, joined. -/
def get? (h : Headers) (name : Octets) : Option (List Char) :=
  let values := h.getAll name
  if values.isEmpty then none else some ([',', ' '].intercalate values)

/-- The full lower case of a name. -/
def lowerName (name : List Char) : List Char := (Text.lower (String.ofList name)).toList

/-- The first name under which nothing is found: names are looked up in full lower case, and the
    fields are only found by their ASCII lower case. -/
def lostName? (h : Headers) : Option (List Char) :=
  h.names.find? fun name => !h.contains (h.charset.encode (lowerName name))

/-- The fields with others over them: those named like one of the others in lower case are left out,
    and the others follow. -/
def overlay (h others : Headers) : Except Charset.Unencodable Headers := do
  let names ← (others.names.map lowerName).mapM h.charset.encode?
  return ⟨(h.fields.filter fun field => !names.any (sameName field.name)) ++ others.fields⟩

end Headers

end Http

end Courier
