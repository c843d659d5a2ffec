import Courier.Auth.Cache
import Courier.Proofs.Octets
import Courier.Proofs.Raw
import Courier.Proofs.Results
import Courier.Proofs.Spans
import Mathlib.Data.Bool.AllAny
import Mathlib.Data.List.TakeDrop

/-!
# Credentials read back from their header

Every three octets are read back from their four letters, and a last group of one or two from its
letters and the padding (`Base64.decode?_encode`). So the header of credentials stands for the
octets of the user name, a colon and the password and for nothing else, and it is printable whatever
these hold (`Scheme.headerLaw`).
-/

namespace Courier

namespace Base64

/-- The letters, in the order of their values. -/
def alphabet : List Char :=
  "ABCDEFGHIJKLMNOPQRSTUVWXYZabcdefghijklmnopqrstuvwxyz0123456789+/".toList

/-- Whether a text is groups of four letters, of which the last one may end with padding in the
    place of one or two. -/
def IsPadded (cs : List Char) : Prop :=
  cs.length % 4 = 0 ∧
    ∃ letters count, cs = letters ++ List.replicate count '=' ∧
      (∀ c ∈ letters, c ∈ alphabet) ∧ count ≤ 2

theorem letter_mem_alphabet {n : Nat} (small : n < 64) : letter n ∈ alphabet :=
  (by decide : ∀ n < 64, letter n ∈ alphabet) n small

theorem value?_letter {n : Nat} (small : n < 64) : value? (letter n) = some n :=
  (by decide : ∀ n < 64, value? (letter n) = some n) n small

theorem letter_ne_padding {n : Nat} (small : n < 64) : letter n ≠ '=' :=
  (by decide : ∀ n < 64, letter n ≠ '=') n small

theorem alphabet_printable : ∀ c ∈ alphabet, 0x20 ≤ c.toNat ∧ c.toNat < 0x7f :=
  List.all_iff_forall_prop.mp rfl

theorem IsPadded.printable {cs : List Char} (padded : IsPadded cs) :
    ∀ c ∈ cs, 0x20 ≤ c.toNat ∧ c.toNat < 0x7f := by
  obtain ⟨-, letters, count, rfl, within, -⟩ := padded
  intro c member
  rcases List.mem_append.mp member with letter | pad
  · exact alphabet_printable c (within c letter)
  · rw [List.eq_of_mem_replicate pad]
    decide

/-- Groups of letters go in front of groups of letters and padding. -/
theorem IsPadded.append {group cs : List Char} (whole : group.length = 4)
    (letters : ∀ c ∈ group, c ∈ alphabet) (padded : IsPadded cs) : IsPadded (group ++ cs) := by
  obtain ⟨length, rest, count, rfl, within, few⟩ := padded
  refine ⟨by rw [List.length_append, whole, Nat.add_mod_left, length], group ++ rest,
    count, ?_, ?_, few⟩
  · rw [List.append_assoc]
  · intro c member
    exact (List.mem_append.mp member).elim (letters c) (within c)

theorem encode_isPadded (octets : Octets) : IsPadded (encode octets) := by
  induction octets using encode.induct with
  | case1 => exact ⟨rfl, [], 0, rfl, by simp, by decide⟩
  | case2 a =>
    have bound := a.toNat_lt
    refine ⟨by simp [encode], [_, _], 2, rfl, ?_, by decide⟩
    simp [letter_mem_alphabet (n := a.toNat / 4) (by omega),
      letter_mem_alphabet (n := a.toNat % 4 * 16) (by omega)]
  | case3 a b =>
    have bound := a.toNat_lt
    have bound' := b.toNat_lt
    refine ⟨by simp [encode], [_, _, _], 1, rfl, ?_, by decide⟩
    simp [letter_mem_alphabet (n := a.toNat / 4) (by omega),
      letter_mem_alphabet (n := a.toNat % 4 * 16 + b.toNat / 16) (by omega),
      letter_mem_alphabet (n := b.toNat % 16 * 4) (by omega)]
  | case4 a b c rest ih =>
    have bound := a.toNat_lt
    have bound' := b.toNat_lt
    have bound'' := c.toNat_lt
    have group : ∀ d ∈ [letter (a.toNat / 4), letter (a.toNat % 4 * 16 + b.toNat / 16),
        letter (b.toNat % 16 * 4 + c.toNat / 64), letter (c.toNat % 64)], d ∈ alphabet := by
      simp [letter_mem_alphabet (n := a.toNat / 4) (by omega),
        letter_mem_alphabet (n := a.toNat % 4 * 16 + b.toNat / 16) (by omega),
        letter_mem_alphabet (n := b.toNat % 16 * 4 + c.toNat / 64) (by omega),
        letter_mem_alphabet (n := c.toNat % 64) (by omega)]
    exact IsPadded.append rfl group ih

/-! ## Reading the letters back -/

section Groups

variable (a b c : UInt8)

theorem octet_of_bits {n : Nat} (bits : n = a.toNat) : UInt8.ofNat n = a := by
  rw [bits, UInt8.ofNat_toNat]

theorem decode?_one : decode? (encode [a]) = some [a] := by
  have bound := a.toNat_lt
  have first : value? (letter (a.toNat / 4)) = some (a.toNat / 4) := value?_letter (by omega)
  have second : value? (letter (a.toNat % 4 * 16)) = some (a.toNat % 4 * 16) :=
    value?_letter (by omega)
  have bits : 4 * (a.toNat / 4) + a.toNat % 4 * 16 / 16 = a.toNat := by omega
  have spare : a.toNat % 4 * 16 % 16 = 0 := by omega
  rw [encode, decode?]
  simp only [first, second, Option.bind_eq_bind, Option.bind_some, spare, if_true,
    octet_of_bits a bits]

theorem decode?_two : decode? (encode [a, b]) = some [a, b] := by
  have bound := a.toNat_lt
  have bound' := b.toNat_lt
  have first : value? (letter (a.toNat / 4)) = some (a.toNat / 4) := value?_letter (by omega)
  have second : value? (letter (a.toNat % 4 * 16 + b.toNat / 16)) =
    some (a.toNat % 4 * 16 + b.toNat / 16) :=
    value?_letter (by omega)
  have third : value? (letter (b.toNat % 16 * 4)) = some (b.toNat % 16 * 4) :=
    value?_letter (by omega)
  have unpadded : letter (b.toNat % 16 * 4) ≠ '=' := letter_ne_padding (by omega)
  have bits : 4 * (a.toNat / 4) + (a.toNat % 4 * 16 + b.toNat / 16) / 16 = a.toNat := by omega
  have bits' : (a.toNat % 4 * 16 + b.toNat / 16) % 16 * 16 + b.toNat % 16 * 4 / 4 = b.toNat := by
    omega
  have spare : b.toNat % 16 * 4 % 4 = 0 := by omega
  rw [encode, decode?]
  · simp only [first, second, third, Option.bind_eq_bind, Option.bind_some, spare, if_true,
      octet_of_bits a bits, octet_of_bits b bits']
  · exact unpadded

theorem decode?_three (rest : Octets) :
    decode? (encode (a :: b :: c :: rest)) = (decode? (encode rest)).map ([a, b, c] ++ ·) := by
  have bound := a.toNat_lt
  have bound' := b.toNat_lt
  have bound'' := c.toNat_lt
  have first : value? (letter (a.toNat / 4)) = some (a.toNat / 4) := value?_letter (by omega)
  have second : value? (letter (a.toNat % 4 * 16 + b.toNat / 16)) =
    some (a.toNat % 4 * 16 + b.toNat / 16) :=
    value?_letter (by omega)
  have third : value? (letter (b.toNat % 16 * 4 + c.toNat / 64)) =
    some (b.toNat % 16 * 4 + c.toNat / 64) :=
    value?_letter (by omega)
  have fourth : value? (letter (c.toNat % 64)) = some (c.toNat % 64) := value?_letter (by omega)
  have unpadded : letter (c.toNat % 64) ≠ '=' := letter_ne_padding (by omega)
  have bits : 4 * (a.toNat / 4) + (a.toNat % 4 * 16 + b.toNat / 16) / 16 = a.toNat := by omega
  have bits' : (a.toNat % 4 * 16 + b.toNat / 16) % 16 * 16 + (b.toNat % 16 * 4 + c.toNat / 64) / 4 =
    b.toNat := by
    omega
  have bits'' : (b.toNat % 16 * 4 + c.toNat / 64) % 4 * 64 + c.toNat % 64 = c.toNat := by omega
  rw [encode, decode?]
  · simp only [first, second, third, fourth, Option.bind_eq_bind, Option.bind_some,
      octet_of_bits a bits, octet_of_bits b bits', octet_of_bits c bits'']
    cases decode? (encode rest) <;> rfl
  · exact fun _ last _ => unpadded last
  · exact fun last _ => unpadded last

end Groups

/-- Octets are read back from their letters. -/
theorem decode?_encode (octets : Octets) : decode? (encode octets) = some octets := by
  induction octets using encode.induct with
  | case1 => rfl
  | case2 a => exact decode?_one a
  | case3 a b => exact decode?_two a b
  | case4 a b c rest ih =>
    rw [decode?_three, ih, Option.map_some, List.cons_append, List.cons_append,
      List.cons_append, List.nil_append]

end Base64

namespace Utf8

theorem pieces_encode (cs : List Char) : pieces none (encode cs) = cs.map some := by
  induction cs with
  | nil => rfl
  | cons c cs ih =>
    rw [List.map_cons, ← ih, ← pieces_none_char]
    rfl

/-- A text is read back from its octets. -/
theorem decode?_encode (cs : List Char) : decode? (encode cs) = some cs := by
  rw [decode?, pieces_encode]
  induction cs with
  | nil => rfl
  | cons c cs ih =>
    rw [List.map_cons, List.mapM_cons, ih]
    rfl

theorem encode_inj {cs ds : List Char} : encode cs = encode ds ↔ cs = ds := by
  constructor
  · intro same
    have read := decode?_encode cs
    rw [same, decode?_encode, Option.some.injEq] at read
    exact read.symm
  · exact congrArg encode

end Utf8

/-- The text that credentials are presented as. -/
def Credentials.text (c : Credentials) : RawText := c.username ++ (":" : RawText) ++ c.password

/-- What the header of a scheme is to be for a user name and a password that consist of
    characters. -/
structure Scheme.HeaderLaw (scheme : Scheme) (username password : String) : Prop where
  /-- It is the word and, in letters, the octets of the text. -/
  encoded : ∃ letters, scheme.header ⟨username, password⟩ = .ok ("Basic ".toList ++ letters) ∧
    Base64.IsPadded letters ∧ Base64.decode? letters =
      some (Utf8.ofString (username ++ ":" ++ password))
  /-- Other credentials have it exactly if their text is the same. -/
  apart : ∀ other : Credentials, scheme.header other = scheme.header ⟨username, password⟩ ↔
    other.text = (⟨username, password⟩ : Credentials).text
  /-- A user name without a colon is what its text has before the first one, and the password comes
      after that. -/
  splits : ':' ∉ username.toList → ∃ letters text,
    scheme.header ⟨username, password⟩ = .ok ("Basic ".toList ++ letters) ∧
      (Base64.decode? letters).bind Utf8.decode? = some text ∧
        text.span (· ≠ ':') = (username.toList, ':' :: password.toList)
  printable : ∀ value, scheme.header ⟨username, password⟩ = .ok value →
    ∀ character ∈ value, 0x20 ≤ character.toNat ∧ character.toNat < 0x7f

namespace Credentials

theorem octets_ofString (username password : String) :
    (⟨username, password⟩ : Credentials).octets =
      .ok (Utf8.ofString (username ++ ":" ++ password)) := by
  rw [octets_ofList, Utf8.ofString, String.toList_append, String.toList_append, List.append_assoc]
  rfl

theorem basicHeader_ofString (username password : String) :
    (⟨username, password⟩ : Credentials).basicHeader =
      .ok (basicValue (Utf8.ofString (username ++ ":" ++ password))) := by
  rw [basicHeader, octets_ofString]
  rfl

/-- Credentials have the header of characters exactly if their text is the same. -/
theorem basicHeader_eq_iff {c : Credentials} {username password : String} :
    c.basicHeader = (⟨username, password⟩ : Credentials).basicHeader ↔
      c.text = (⟨username, password⟩ : Credentials).text := by
  constructor
  · intro same
    rw [basicHeader_ofString] at same
    obtain ⟨octets, encoded, value⟩ := map_eq_ok.mp same
    obtain ⟨cs, consists, rfl⟩ := RawText.encode_eq_ok_iff.mp encoded
    have letters : Base64.encode (Utf8.encode cs) =
        Base64.encode (Utf8.ofString (username ++ ":" ++ password)) := List.append_cancel_left value
    have decoded := Base64.decode?_encode (Utf8.encode cs)
    rw [letters, Base64.decode?_encode, Option.some.injEq, Utf8.ofString,
      Utf8.encode_inj] at decoded
    have own := octets_ofString username password
    obtain ⟨cs', consists', same'⟩ := RawText.encode_eq_ok_iff.mp own
    rw [Utf8.ofString, Utf8.encode_inj, decoded] at same'
    exact consists.trans (same' ▸ consists'.symm)
  · intro same
    unfold basicHeader octets
    exact congrArg (fun text : RawText => text.encode.map basicValue) same

end Credentials

/-- Credentials of characters are read back from their header, and it is printable. -/
theorem Scheme.headerLaw (username password : String) :
    Scheme.basic.HeaderLaw username password := by
  have header := Credentials.basicHeader_ofString username password
  have decoded := Base64.decode?_encode (Utf8.ofString (username ++ ":" ++ password))
  refine ⟨⟨_, header, Base64.encode_isPadded _, decoded⟩, fun other =>
    Credentials.basicHeader_eq_iff, ?_, ?_⟩
  · intro clear
    refine ⟨_, (username ++ ":" ++ password).toList, header, ?_, ?_⟩
    · rw [decoded, Option.bind_some, Utf8.ofString, Utf8.decode?_encode]
    · have colon : ∀ d ∈ (':' :: password.toList).head?, decide (d ≠ ':') = false := by simp
      obtain ⟨before, after⟩ := span_append_of_stops colon (passes_of_not_mem clear)
      have text : (username ++ ":" ++ password).toList = username.toList ++
        ':' :: password.toList := by
        simp [String.toList_append]
      rw [text, List.span_eq_takeWhile_dropWhile, before, after]
  · intro value given character member
    obtain rfl := Except.ok.inj (header.symm.trans given)
    rcases List.mem_append.mp member with word | letter
    · have printable : ∀ c ∈ ['B', 'a', 's', 'i', 'c', ' '], 0x20 ≤ c.toNat ∧ c.toNat < 0x7f :=
        List.all_iff_forall_prop.mp rfl
      exact printable character word
    · exact (Base64.encode_isPadded _).printable character letter

end Courier
