import Courier.Text.Hex
import Courier.Text.PrintableTable
import Courier.Text.Utf8

/-!
# Quoted text

A quoted text stands between single quotes, or between double quotes when it holds a single quote
and no double one. The quote in use and the backslash follow a backslash; tab, line feed and
carriage return have escapes of one letter; every other character that is not printable is written
by its code in two, four or eight hexadecimal digits. Quoted octets follow the same rule, with every
octet outside printable ASCII written in two digits.
-/

namespace Courier.Text

/-- Whether a character is printable; of the white space only the ASCII space is. -/
def isPrintable (c : Char) : Bool :=
  if c.toNat < 128 then 32 ≤ c.toNat && c.toNat < 127
  else !unprintableRanges.any fun (first, last) => first ≤ c.toNat && c.toNat ≤ last

/-- The quote for a text: double if the text holds a single quote and no double one. -/
def quoteFor (cs : List Char) : Char :=
  if cs.contains '\'' && !cs.contains '"' then '"' else '\''

/-- The escape of a character by its code. -/
def escapeCode (n : Nat) : List Char :=
  if n < 0x100 then '\\' :: 'x' :: hexDigits 2 n
  else if n < 0x10000 then '\\' :: 'u' :: hexDigits 4 n
  else '\\' :: 'U' :: hexDigits 8 n

/-- A text in ASCII: every other character is written by its code. -/
def inAscii (cs : List Char) : List Char :=
  cs.flatMap fun c => if c.toNat < 128 then [c] else escapeCode c.toNat

/-- A character as it is written between two quotes. -/
def escapeChar (quote c : Char) : List Char :=
  if c = quote ∨ c = '\\' then ['\\', c]
  else if c = '\t' then ['\\', 't']
  else if c = '\n' then ['\\', 'n']
  else if c = '\r' then ['\\', 'r']
  else if isPrintable c then [c]
  else escapeCode c.toNat

/-- A text between quotes. -/
def quoted (cs : List Char) : List Char :=
  let quote := quoteFor cs
  quote :: cs.flatMap (escapeChar quote) ++ [quote]

/-- A string between quotes. -/
def quotedString (s : String) : String := String.ofList (quoted s.toList)

/-- A string between quotes, or `None` where there is none. -/
def quotedOption : Option String → String
  | none => "None"
  | some s => quotedString s

/-- An octet as it is written between two quotes. -/
def escapeOctet (quote : Char) (b : UInt8) : List Char :=
  let c := Char.ofNat b.toNat
  if b < 0x80 then escapeChar quote c else escapeCode b.toNat

/-- Octets between quotes, after the letter `b`. -/
def quotedOctets (octets : Octets) : List Char :=
  let quote := quoteFor (octets.map fun b => Char.ofNat b.toNat)
  'b' :: quote :: octets.flatMap (escapeOctet quote) ++ [quote]

end Courier.Text
