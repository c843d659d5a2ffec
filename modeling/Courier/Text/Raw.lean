import Courier.Text.Quoted

/-!
# Texts with lone surrogates

A name or a password that a caller hands over may hold surrogates by themselves. They are no
characters, and a text with one has no octets. All other texts, those of hosts and of fields
included, consist of characters.
-/

namespace Courier

/-- What a raw text consists of: characters, and surrogates by their distance from the first one. -/
inductive RawChar where
  | char (c : Char)
  | surrogate (distance : Fin 0x800)
  deriving DecidableEq, Repr

/-- A text that may hold surrogates by themselves. -/
structure RawText where
  chars : List RawChar
  deriving DecidableEq, Repr, Inhabited

namespace RawText

/-- A text of characters. -/
def ofList (cs : List Char) : RawText := ⟨cs.map .char⟩

instance : Coe String RawText := ⟨fun s => ofList s.toList⟩

instance : Append RawText := ⟨fun first second => ⟨first.chars ++ second.chars⟩⟩

/-- Whether there is nothing in a text. -/
def isEmpty (t : RawText) : Bool := t.chars.isEmpty

end RawText

/-- The code point of a raw character. -/
def RawChar.code : RawChar → Nat
  | char c => c.toNat
  | surrogate distance => 0xd800 + distance

/-- The character that a raw one is, if it is one. -/
def RawChar.char? : RawChar → Option Char
  | char c => some c
  | surrogate _ => none

namespace RawText

/-- The characters of a text that consists of characters. -/
def characters? (t : RawText) : Option (List Char) := t.chars.mapM RawChar.char?

/-- A text without octets. -/
structure Unencodable where
  text : RawText
  deriving DecidableEq, Repr

/-- The octets of a text. -/
def encode (t : RawText) : Except Unencodable Octets :=
  match t.characters? with
  | some cs => .ok (Utf8.encode cs)
  | none => .error ⟨t⟩

/-- The wording of an error: it tells the first run of surrogates. -/
def Unencodable.message (e : Unencodable) : String :=
  let start := (e.text.chars.takeWhile (·.char?.isSome)).length
  let run := (e.text.chars.drop start).takeWhile (·.char?.isNone)
  let which :=
    match run with
    | [c] => s!"character '{String.ofList (Text.escapeCode c.code)}' in position {start}"
    | _ => s!"characters in position {start}-{start + run.length - 1}"
  s!"'utf-8' codec can't encode {which}: surrogates not allowed"

/-- A raw character as it is written between two quotes. -/
def escape (quote : Char) : RawChar → List Char
  | .char c => Text.escapeChar quote c
  | .surrogate distance => Text.escapeCode (0xd800 + distance)

/-- A text between quotes. -/
def quoted (t : RawText) : String :=
  let quote := Text.quoteFor (t.chars.filterMap RawChar.char?)
  String.ofList (quote :: t.chars.flatMap (escape quote) ++ [quote])

/-- A text between quotes, or `None` where there is none. -/
def quotedOption : Option RawText → String
  | none => "None"
  | some t => t.quoted

end RawText

end Courier
