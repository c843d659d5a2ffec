import Courier.Text.Hex
import Courier.Text.Utf8

/-!
# Percent-encoding

A component of a URL is written with a set of characters that stand for themselves; every other one
is written as the octets of its UTF-8 form, each as a percent sign and two hexadecimal digits in
upper case. Every set in use keeps the percent sign, so an escape that is already there stays as it
is.
-/

namespace Courier.Percent

/-- The upper case hexadecimal digit of a value below sixteen. -/
def upperHexDigit (n : Nat) : Char := (Text.hexDigit n).toUpper

/-- The escape of an octet. -/
def escape (b : UInt8) : List Char :=
  ['%', upperHexDigit (b.toNat / 16), upperHexDigit (b.toNat % 16)]

/-- A component with every character that is not kept written as escapes. -/
def encode (keep : Char → Bool) (cs : List Char) : List Char :=
  cs.flatMap fun c => if keep c then [c] else (String.utf8EncodeChar c).flatMap escape

/-- The octets a component stands for: every escape is undone, and a percent sign without two
    hexadecimal digits after it stands for itself. -/
def octets : List Char → Octets
  | [] => []
  | '%' :: high :: low :: rest =>
    match Text.hexValue? high, Text.hexValue? low with
    | some h, some l => UInt8.ofNat (16 * h + l) :: octets rest
    | _, _ => Utf8.encode ['%'] ++ octets (high :: low :: rest)
  | c :: rest => Utf8.encode [c] ++ octets rest

/-- The text a component stands for; octets that are no UTF-8 are replaced. -/
def decode (cs : List Char) : List Char := Utf8.decode (octets cs)

end Courier.Percent
