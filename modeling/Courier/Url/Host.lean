import Courier.Text.Case
import Courier.Text.Percent
import Courier.Url.Error

/-!
# Hosts

A host is a registered name, an IPv4 address or a bracketed IPv6 address. A host of four groups of
digits between dots has to be a valid IPv4 address, and a bracketed one a valid IPv6 address, which
may have a zone. Any other is a registered name: one in ASCII is written in lower case, and one with
other characters in its ASCII form, which is taken from outside.

Zones with characters outside ASCII are left out; an address with one counts as no address.
-/

namespace Courier.Url.Host

/-- The pieces of a text between the occurrences of a separator. -/
def splitOn (separator : Char) (cs : List Char) : List (List Char) :=
  cs.foldr (fun c pieces =>
    if c = separator then [] :: pieces
    else match pieces with
      | piece :: rest => (c :: piece) :: rest
      | [] => [[c]]) [[]]

/-- Whether a piece is an octet of an IPv4 address: at most 255, in at most three digits without a
    leading zero. -/
def isIpv4Octet (digits : List Char) : Bool :=
  !digits.isEmpty && digits.all Char.isDigit && digits.length ≤ 3
    && (digits == ['0'] || digits.head? != some '0')
    && digits.foldl (fun value c => 10 * value + (c.toNat - '0'.toNat)) 0 ≤ 255

/-- Whether a text is an IPv4 address. -/
def isIpv4 (cs : List Char) : Bool :=
  let octets := splitOn '.' cs
  octets.length == 4 && octets.all isIpv4Octet

/-- Whether a text has the form of an IPv4 address: four groups of digits between dots. -/
def looksLikeIpv4 (cs : List Char) : Bool :=
  let octets := splitOn '.' cs
  octets.length == 4 && octets.all fun digits => !digits.isEmpty && digits.all Char.isDigit

/-- Whether a piece is a group of an IPv6 address: one to four hexadecimal digits. -/
def isIpv6Group (digits : List Char) : Bool :=
  !digits.isEmpty && digits.length ≤ 4 && digits.all Text.isHexDigit

/-- The number of groups a text between colons stands for, if each piece is one. An IPv4 address is
    two groups and may stand last where `last` is set. -/
def countGroups? (last : Bool) : List (List Char) → Option Nat
  | [] => some 0
  | [piece] =>
    if isIpv6Group piece then some 1
    else if last && isIpv4 piece then some 2
    else none
  | piece :: rest =>
    if isIpv6Group piece then (countGroups? last rest).map (· + 1) else none

/-- The number of groups in a text, which may be empty. -/
def countText? (last : Bool) (cs : List Char) : Option Nat :=
  if cs.isEmpty then some 0 else countGroups? last (splitOn ':' cs)

/-- Splits a text at its first double colon. -/
def splitAtGap? : List Char → Option (List Char × List Char)
  | ':' :: ':' :: rest => some ([], rest)
  | c :: rest => (splitAtGap? rest).map fun (before, after) => (c :: before, after)
  | [] => none

/-- Whether a text is an IPv6 address without a zone: eight groups, or fewer with a double colon for
    the missing ones. -/
def isUnzonedIpv6 (cs : List Char) : Bool :=
  match splitAtGap? cs with
  | none => countText? true cs == some 8
  | some (before, after) =>
    match countText? false before, countText? true after with
    | some m, some n => m + n ≤ 7
    | _, _ => false

/-- Whether a character may stand in the zone of an address. The marks that end a host in a URL, or
    its user information, cannot come up there. -/
def isZoneChar (c : Char) : Bool :=
  32 ≤ c.toNat && c.toNat < 127 && !"%/?#@".toList.contains c

/-- Whether a text is an IPv6 address, alone or with a percent sign and a zone behind it. -/
def isIpv6 (cs : List Char) : Bool :=
  isUnzonedIpv6 (cs.takeWhile (· ≠ '%')) &&
    match cs.dropWhile (· ≠ '%') with
    | [] => true
    | _ :: zone => !zone.isEmpty && zone.all isZoneChar

/-- Whether a character stands for itself in a registered name. -/
def keepsInName (c : Char) : Bool :=
  c.isAlphanum || "-._~!$&'()*+,;=\"`\x7b\x7d%|\\".toList.contains c

/-- Whether a text stands between brackets. -/
def isBracketed (cs : List Char) : Bool :=
  2 ≤ cs.length && cs.head? == some '[' && cs.getLast? == some ']'

/-- The ASCII forms of names where none has one. -/
def noForm (_ : List Char) : Option (List Char) := none

/-- The normal form of a host, where names outside ASCII have these ASCII forms. -/
def normalize (asciiForm? : List Char → Option (List Char)) (cs : List Char) :
    Except Error (List Char) :=
  if cs.isEmpty then .ok []
  else if looksLikeIpv4 cs then
    if isIpv4 cs then .ok cs else .error (.ipv4 cs)
  else if isBracketed cs then
    let address := (cs.drop 1).dropLast
    if isIpv6 address then .ok address else .error (.ipv6 cs)
  else if cs.all (·.toNat < 128) then
    .ok (Percent.encode keepsInName (cs.map Char.toLower))
  else
    match asciiForm? (Text.lower (String.ofList cs)).toList with
    | some form => .ok form
    | none => .error (.international cs)

end Courier.Url.Host
