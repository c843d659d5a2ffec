/-!
# UTF-8

A text is encoded character by character. Octets are decoded by a machine that is fed one octet at a
time and remembers what the sequence it is in still owes. An octet that does not fit ends the
sequence as ill-formed and starts the next one, so an ill-formed stretch is the longest start of
some well-formed sequence, or a single octet that starts none.

`decode?` refuses octets with an ill-formed stretch, and `decode` writes the replacement character
for each.
-/

namespace Courier

/-- A sequence of octets. -/
abbrev Octets := List UInt8

namespace Utf8

/-- The octets of a text. -/
def encode (cs : List Char) : Octets := cs.flatMap String.utf8EncodeChar

/-- The octets of a string. -/
def ofString (s : String) : Octets := encode s.toList

/-- What a sequence still owes: that many octets after the next one, the bounds of the next one, and
    the bits of the code point so far. -/
structure Owed where
  after : Nat
  low : UInt8
  high : UInt8
  bits : Nat
  deriving DecidableEq, Repr

/-- What the first octet of a longer sequence owes. -/
def lead? (b : UInt8) : Option Owed :=
  if 0xc2 ≤ b ∧ b ≤ 0xdf then some ⟨0, 0x80, 0xbf, b.toNat - 0xc0⟩
  else if b = 0xe0 then some ⟨1, 0xa0, 0xbf, 0⟩
  else if b = 0xed then some ⟨1, 0x80, 0x9f, 13⟩
  else if 0xe1 ≤ b ∧ b ≤ 0xef then some ⟨1, 0x80, 0xbf, b.toNat - 0xe0⟩
  else if b = 0xf0 then some ⟨2, 0x90, 0xbf, 0⟩
  else if 0xf1 ≤ b ∧ b ≤ 0xf3 then some ⟨2, 0x80, 0xbf, b.toNat - 0xf0⟩
  else if b = 0xf4 then some ⟨2, 0x80, 0x8f, 4⟩
  else none

/-- What an octet between two sequences gives: pieces of text, of which an ill-formed one is
    missing, and what is owed after it. -/
def start (b : UInt8) : List (Option Char) × Option Owed :=
  if b < 0x80 then ([some (Char.ofNat b.toNat)], none)
  else
    match lead? b with
    | some owed => ([], some owed)
    | none => ([none], none)

/-- What an octet gives, whatever is owed before it. -/
def feed (owed : Option Owed) (b : UInt8) : List (Option Char) × Option Owed :=
  match owed with
  | none => start b
  | some owed =>
    if owed.low ≤ b ∧ b ≤ owed.high then
      let bits := 64 * owed.bits + (b.toNat - 0x80)
      match owed.after with
      | 0 => ([some (Char.ofNat bits)], none)
      | after + 1 => ([], some ⟨after, 0x80, 0xbf, bits⟩)
    else
      let (pieces, owed) := start b
      (none :: pieces, owed)

/-- The pieces of octets: characters, and nothing for an ill-formed stretch. -/
def pieces (owed : Option Owed) : Octets → List (Option Char)
  | [] => if owed.isSome then [none] else []
  | b :: rest => (feed owed b).1 ++ pieces (feed owed b).2 rest

/-- The text of octets, if they are well-formed. -/
def decode? (octets : Octets) : Option (List Char) := (pieces none octets).mapM id

/-- The text of octets, with U+FFFD for every ill-formed stretch. -/
def decode (octets : Octets) : List Char := (pieces none octets).map (·.getD '\uFFFD')

end Utf8

end Courier
