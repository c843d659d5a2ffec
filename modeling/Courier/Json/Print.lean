import Courier.Json.Basic
import Courier.Text.Hex

/-!
# The text of JSON values

Log lines and request bodies are written in two styles: a log line has a space after every comma and
colon and holds printable ASCII only, a body has no spaces and keeps its characters. In both a
control character is escaped, by one letter where JSON has one; characters beyond the basic plane
are escaped as two surrogates.
-/

namespace Courier.Json

/-- The choices of a way to write JSON. -/
structure Style where
  /-- What stands between two items or members. -/
  comma : List Char
  /-- What stands between a key and its value. -/
  colon : List Char
  /-- Whether every character outside printable ASCII is escaped. -/
  asciiOnly : Bool
  deriving Repr

/-- The style of log lines: spaced, and in ASCII. -/
def Style.line : Style := ⟨[',', ' '], [':', ' '], true⟩

/-- The style of request bodies: without spaces, and with all characters kept. -/
def Style.compact : Style := ⟨[','], [':'], false⟩

/-- The escape of a code unit of sixteen bits. -/
def unitEscape (n : Nat) : List Char := '\\' :: 'u' :: Text.hexDigits 4 n

/-- The escape of a character by its code. -/
def codeEscape (c : Char) : List Char :=
  let n := c.toNat
  if n < 0x10000 then unitEscape n
  else
    unitEscape (0xd800 + (n - 0x10000) / 0x400) ++ unitEscape (0xdc00 + (n - 0x10000) % 0x400)

/-- A character as it is written inside a string. -/
def escapeChar (asciiOnly : Bool) (c : Char) : List Char :=
  if c = '"' then ['\\', '"']
  else if c = '\\' then ['\\', '\\']
  else if c = '\n' then ['\\', 'n']
  else if c = '\r' then ['\\', 'r']
  else if c = '\t' then ['\\', 't']
  else if c = '\x08' then ['\\', 'b']
  else if c = '\x0c' then ['\\', 'f']
  else if c.toNat < 0x20 then codeEscape c
  else if asciiOnly && 0x7f ≤ c.toNat then codeEscape c
  else [c]

/-- A string between quotes. -/
def stringText (asciiOnly : Bool) (s : String) : List Char :=
  '"' :: s.toList.flatMap (escapeChar asciiOnly) ++ ['"']

/-- The text of a number; a NaN and the infinities are written as words. -/
def numberText : Number → List Char
  | .integer n => (toString n).toList
  | .float .nan => ['N', 'a', 'N']
  | .float (.infinite negative) => (if negative then "-Infinity" else "Infinity").toList
  | .float x => x.text

mutual

/-- The text of a value. -/
def text (style : Style) : Json → List Char
  | null => ['n', 'u', 'l', 'l']
  | bool true => ['t', 'r', 'u', 'e']
  | bool false => ['f', 'a', 'l', 's', 'e']
  | number n => numberText n
  | string s => stringText style.asciiOnly s
  | foreign value => stringText style.asciiOnly value.shown
  | array items => '[' :: itemsText style items ++ [']']
  | object members => '\x7b' :: membersText style members ++ ['\x7d']

/-- The text of the items of an array. -/
def itemsText (style : Style) : List Json → List Char
  | [] => []
  | [item] => text style item
  | item :: rest => text style item ++ style.comma ++ itemsText style rest

/-- The text of the members of an object. -/
def membersText (style : Style) : List (String × Json) → List Char
  | [] => []
  | [(key, value)] => stringText style.asciiOnly key ++ style.colon ++ text style value
  | (key, value) :: rest =>
    stringText style.asciiOnly key ++ style.colon ++ text style value ++ style.comma
      ++ membersText style rest

end

end Courier.Json
