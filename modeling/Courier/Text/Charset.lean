import Courier.Text.Quoted
import Courier.Text.Utf8

/-!
# Charsets of header fields

Fields have no charset of their own. Their octets are read in the first of ASCII, UTF-8 and Latin-1
that fits all of them, and texts that are looked up among them or added to them are written in the
same one.
-/

namespace Courier

/-- A charset of header fields. -/
inductive Charset where
  | ascii
  | utf8
  | latin1
  deriving DecidableEq, Repr

namespace Charset

/-- The first charset that fits all of these octets. -/
def fitting (all : List Octets) : Charset :=
  if all.all (·.all (· < 0x80)) then ascii
  else if all.all fun octets => (Utf8.decode? octets).isSome then utf8
  else latin1

/-- The text of octets that fit. -/
def decode (charset : Charset) (octets : Octets) : List Char :=
  match charset with
  | ascii | utf8 => Utf8.decode octets
  | latin1 => octets.map fun b => Char.ofNat b.toNat

/-- Whether a charset has a character. -/
def covers (charset : Charset) (c : Char) : Bool :=
  match charset with
  | ascii => c.toNat < 128
  | utf8 => true
  | latin1 => c.toNat < 256

/-- The octets of a text whose characters the charset has. -/
def encode (charset : Charset) (cs : List Char) : Octets :=
  match charset with
  | ascii | utf8 => Utf8.encode cs
  | latin1 => cs.map fun c => UInt8.ofNat c.toNat

/-- A text with characters that a charset lacks. -/
structure Unencodable where
  charset : Charset
  text : List Char
  deriving DecidableEq, Repr

/-- The octets of a text, if the charset has all of its characters. -/
def encode? (charset : Charset) (cs : List Char) : Except Unencodable Octets :=
  if cs.all charset.covers then .ok (charset.encode cs) else .error ⟨charset, cs⟩

/-- The name of a charset, and how many codes it has. -/
def described : Charset → String × Nat
  | ascii => ("ascii", 128)
  | utf8 => ("utf-8", 0x110000)
  | latin1 => ("latin-1", 256)

/-- The wording of an error: it tells the first run of characters that the charset lacks. -/
def Unencodable.message (e : Unencodable) : String :=
  let start := (e.text.takeWhile e.charset.covers).length
  let run := (e.text.drop start).takeWhile (!e.charset.covers ·)
  let which :=
    match run with
    | [c] => s!"character '{String.ofList (Text.escapeCode c.toNat)}' in position {start}"
    | _ => s!"characters in position {start}-{start + run.length - 1}"
  let (name, size) := e.charset.described
  s!"'{name}' codec can't encode {which}: ordinal not in range({size})"

end Charset

end Courier
