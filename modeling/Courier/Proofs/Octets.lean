import Courier.Proofs.Percent

/-!
# Texts read back from octets

The octets of a character are decoded to it, whatever sequence they break off (`Utf8.pieces_char`),
and an octet gives at most one piece, counting the one that is owed after it (`Utf8.length_feed`).
So a text is decoded from its encoding as a component exactly if it has no escape of its own
(`Percent.decode_encode_iff`): an escape is three characters that stand for one octet, and what
encoding adds stands for what it has replaced.
-/

namespace Courier

namespace Utf8

/-- What a sequence that is broken off leaves: one ill-formed piece. -/
def missing (owed : Option Owed) : List (Option Char) := if owed.isSome then [none] else []

/-- Whether what is owed, if anything, can only be paid by an octet that goes on with a sequence. -/
def Pending (owed : Option Owed) : Prop :=
  ∀ o, owed = some o → 0x80 ≤ o.low.toNat ∧ o.high.toNat ≤ 0xbf

theorem toNat_ofNat {n : Nat} (small : n < 256) : (UInt8.ofNat n).toNat = n := by
  rw [UInt8.toNat_ofNat']
  exact Nat.mod_eq_of_lt small

theorem start_ofNat {n : Nat} (ascii : n < 0x80) :
    start (UInt8.ofNat n) = ([some (Char.ofNat n)], none) := by
  have code := toNat_ofNat (n := n) (by omega)
  unfold start
  rw [if_pos (by rw [UInt8.lt_iff_toNat_lt, code]; exact ascii), code]

/-- What the first octet of a longer sequence owes, by its number. -/
theorem lead?_ofNat {n : Nat} (small : n < 256) : lead? (UInt8.ofNat n) =
    if 0xc2 ≤ n ∧ n ≤ 0xdf then some ⟨0, 0x80, 0xbf, n - 0xc0⟩
    else if n = 0xe0 then some ⟨1, 0xa0, 0xbf, 0⟩
    else if n = 0xed then some ⟨1, 0x80, 0x9f, 13⟩
    else if 0xe1 ≤ n ∧ n ≤ 0xef then some ⟨1, 0x80, 0xbf, n - 0xe0⟩
    else if n = 0xf0 then some ⟨2, 0x90, 0xbf, 0⟩
    else if 0xf1 ≤ n ∧ n ≤ 0xf3 then some ⟨2, 0x80, 0xbf, n - 0xf0⟩
    else if n = 0xf4 then some ⟨2, 0x80, 0x8f, 4⟩
    else none := by
  unfold lead?
  simp only [UInt8.le_iff_toNat_le, ← UInt8.toNat_inj, toNat_ofNat small]
  rfl

theorem pieces_lead {n : Nat} (high : 0x80 ≤ n) (small : n < 256) {owed : Owed}
    (leads : lead? (UInt8.ofNat n) = some owed) (rest : Octets) :
    pieces none (UInt8.ofNat n :: rest) = pieces (some owed) rest := by
  have other : ¬ UInt8.ofNat n < 0x80 := by
    rw [UInt8.lt_iff_toNat_lt, toNat_ofNat small]
    exact Nat.not_lt.mpr high
  have begins : start (UInt8.ofNat n) = ([], some owed) := by
    rw [start, if_neg other, leads]
  simp only [pieces, feed, begins, List.nil_append]

section Continuing

variable {o : Owed} {n : Nat} (small : n < 64) (low : o.low.toNat ≤ n + 128)
    (high : n + 128 ≤ o.high.toNat)

include small low high

theorem feed_continuing : feed (some o) (UInt8.ofNat (n + 128)) =
    match o.after with
    | 0 => ([some (Char.ofNat (64 * o.bits + n))], none)
    | after + 1 => ([], some ⟨after, 0x80, 0xbf, 64 * o.bits + n⟩) := by
  have code : (UInt8.ofNat (n + 128)).toNat = n + 128 := toNat_ofNat (by omega)
  have fits : o.low ≤ UInt8.ofNat (n + 128) ∧ UInt8.ofNat (n + 128) ≤ o.high := by
    rw [UInt8.le_iff_toNat_le, UInt8.le_iff_toNat_le, code]
    exact ⟨low, high⟩
  have bits : 64 * o.bits + (n + 128 - 128) = 64 * o.bits + n := by omega
  cases more : o.after with
  | zero => simp only [feed, if_pos fits, code, bits, more]
  | succ after => simp only [feed, if_pos fits, code, bits, more]

theorem pieces_middle {after : Nat} (more : o.after = after + 1) (rest : Octets) :
    pieces (some o) (UInt8.ofNat (n + 128) :: rest) =
      pieces (some ⟨after, 0x80, 0xbf, 64 * o.bits + n⟩) rest := by
  simp only [pieces, feed_continuing small low high, more, List.nil_append]

theorem pieces_last (last : o.after = 0) (rest : Octets) :
    pieces (some o) (UInt8.ofNat (n + 128) :: rest) =
      some (Char.ofNat (64 * o.bits + n)) :: pieces none rest := by
  simp only [pieces, feed_continuing small low high, last, List.singleton_append]

end Continuing

theorem lead?_two {v : Nat} (low : 0x80 ≤ v) (high : v < 0x800) :
    lead? (UInt8.ofNat (v / 64 % 32 + 192)) = some ⟨0, 0x80, 0xbf, v / 64⟩ := by
  have bits : v / 64 % 32 + 192 - 192 = v / 64 := by omega
  rw [lead?_ofNat (by omega), if_pos (by omega), bits]

/-- The first octet of three leaves the second one its range: no shorter form, and no surrogate. -/
theorem lead?_three {v : Nat} (low : 0x800 ≤ v) (high : v < 0x10000)
    (valid : v < 0xd800 ∨ 0xdfff < v) :
    ∃ least greatest, lead? (UInt8.ofNat (v / 4096 % 16 + 224)) =
      some ⟨1, least, greatest, v / 4096⟩ ∧
      least.toNat ≤ v / 64 % 64 + 128 ∧ v / 64 % 64 + 128 ≤ greatest.toNat := by
  have whole : v / 4096 % 16 = v / 4096 := by omega
  rw [lead?_ofNat (by omega), whole]
  generalize lead : v / 4096 = n at *
  have second : v / 64 % 64 < 64 := Nat.mod_lt _ (by decide)
  by_cases first : n = 0
  · subst first
    refine ⟨0xa0, 0xbf, rfl, ?_, ?_⟩
    · change 160 ≤ _
      omega
    · change _ ≤ 191
      omega
  · by_cases surrogate : n = 13
    · subst surrogate
      refine ⟨0x80, 0x9f, rfl, Nat.le_add_left _ _, ?_⟩
      change _ ≤ 159
      omega
    · refine ⟨0x80, 0xbf, ?_, Nat.le_add_left _ _, ?_⟩
      · rw [if_neg (by omega), if_neg (by omega), if_neg (by omega), if_pos (by omega),
          Nat.add_sub_cancel]
      · change _ ≤ 191
        omega

/-- The first octet of four leaves the second one its range: no shorter form, and no number above
    the greatest. -/
theorem lead?_four {v : Nat} (low : 0x10000 ≤ v) (high : v < 0x110000) :
    ∃ least greatest, lead? (UInt8.ofNat (v / 262144 % 8 + 240)) =
      some ⟨2, least, greatest, v / 262144⟩ ∧
      least.toNat ≤ v / 4096 % 64 + 128 ∧ v / 4096 % 64 + 128 ≤ greatest.toNat := by
  have whole : v / 262144 % 8 = v / 262144 := by omega
  rw [lead?_ofNat (by omega), whole]
  generalize lead : v / 262144 = n at *
  have second : v / 4096 % 64 < 64 := Nat.mod_lt _ (by decide)
  by_cases first : n = 0
  · subst first
    refine ⟨0x90, 0xbf, rfl, ?_, ?_⟩
    · change 144 ≤ _
      omega
    · change _ ≤ 191
      omega
  · by_cases last : n = 4
    · subst last
      refine ⟨0x80, 0x8f, rfl, Nat.le_add_left _ _, ?_⟩
      change _ ≤ 143
      omega
    · refine ⟨0x80, 0xbf, ?_, Nat.le_add_left _ _, ?_⟩
      · rw [if_neg (by omega), if_neg (by omega), if_neg (by omega), if_neg (by omega),
          if_neg (by omega), if_pos (by omega), Nat.add_sub_cancel]
      · change _ ≤ 191
        omega

theorem within {n : Nat} :
    (0x80 : UInt8).toNat ≤ n % 64 + 128 ∧ n % 64 + 128 ≤ (0xbf : UInt8).toNat := by
  have bound : n % 64 < 64 := Nat.mod_lt _ (by decide)
  change 128 ≤ n % 64 + 128 ∧ n % 64 + 128 ≤ 191
  omega

/-- The octets of a character are a piece of their own. -/
theorem pieces_none_char (c : Char) (rest : Octets) :
    pieces none (String.utf8EncodeChar c ++ rest) = some c :: pieces none rest := by
  have own : Char.ofNat c.val.toNat = c := Char.ofNat_toNat c
  have valid : c.val.toNat < 0xd800 ∨ 0xdfff < c.val.toNat ∧ c.val.toNat < 0x110000 := c.valid
  have small : ∀ n, n % 64 < 64 := fun n => Nat.mod_lt _ (by decide)
  unfold String.utf8EncodeChar
  generalize c.val.toNat = v at own valid
  simp only
  split
  · simp only [List.cons_append, List.nil_append, pieces, feed,
      start_ofNat (n := v) (by omega), own]
  · split
    · have sum : 64 * (v / 64) + v % 64 = v := by omega
      simp only [List.cons_append, List.nil_append]
      rw [pieces_lead (by omega) (by omega) (lead?_two (by omega) (by omega)),
        pieces_last (small _) within.1 within.2 rfl]
      simp only [sum, own]
    · split
      · obtain ⟨least, greatest, leads, above, below⟩ :=
          lead?_three (v := v) (by omega) (by omega) (by omega)
        have sum : 64 * (64 * (v / 4096) + v / 64 % 64) + v % 64 = v := by omega
        simp only [List.cons_append, List.nil_append]
        rw [pieces_lead (by omega) (by omega) leads, pieces_middle (small _) above below rfl,
          pieces_last (small _) within.1 within.2 rfl]
        simp only [sum, own]
      · obtain ⟨least, greatest, leads, above, below⟩ := lead?_four (v := v) (by omega) (by omega)
        have sum : 64 * (64 * (64 * (v / 262144) + v / 4096 % 64) + v / 64 % 64) + v % 64 = v := by
          omega
        simp only [List.cons_append, List.nil_append]
        rw [pieces_lead (by omega) (by omega) leads, pieces_middle (small _) above below rfl,
          pieces_middle (small _) within.1 within.2 rfl,
            pieces_last (small _) within.1 within.2 rfl]
        simp only [sum, own]

/-- An octet that does not go on with a sequence breaks it off. -/
theorem pieces_of_break {owed : Option Owed} {b : UInt8}
    (breaks : ∀ o, owed = some o → ¬ (o.low ≤ b ∧ b ≤ o.high)) (rest : Octets) :
    pieces owed (b :: rest) = missing owed ++ pieces none (b :: rest) := by
  cases owed with
  | none => rfl
  | some o =>
    simp only [pieces, feed, if_neg (breaks o rfl), missing, Option.isSome_some, if_true]
    rfl

/-- No character starts with an octet that goes on with a sequence. -/
theorem first_of_char (c : Char) :
    ∃ b rest, String.utf8EncodeChar c = b :: rest ∧ (b.toNat < 0x80 ∨ 0xbf < b.toNat) := by
  unfold String.utf8EncodeChar
  generalize c.val.toNat = v
  simp only
  split
  · exact ⟨_, _, rfl, .inl (by rw [toNat_ofNat (by omega)]; omega)⟩
  · split
    · exact ⟨_, _, rfl, .inr (by rw [toNat_ofNat (by omega)]; omega)⟩
    · split
      · exact ⟨_, _, rfl, .inr (by rw [toNat_ofNat (by omega)]; omega)⟩
      · exact ⟨_, _, rfl, .inr (by rw [toNat_ofNat (by omega)]; omega)⟩

theorem pieces_char {owed : Option Owed} (pending : Pending owed) (c : Char) (rest : Octets) :
    pieces owed (String.utf8EncodeChar c ++ rest) = missing owed ++ some c :: pieces none rest := by
  obtain ⟨b, more, octets, foreign⟩ := first_of_char c
  rw [← pieces_none_char, octets, List.cons_append]
  apply pieces_of_break
  rintro o rfl ⟨low, high⟩
  rw [UInt8.le_iff_toNat_le] at low high
  have bounds := pending o rfl
  omega

theorem pending_none : Pending none := by simp [Pending]

theorem pending_some {after bits : Nat} {low high : UInt8} (least : 0x80 ≤ low.toNat)
    (greatest : high.toNat ≤ 0xbf) :
    Pending (some ⟨after, low, high, bits⟩) := by
  rintro o ⟨⟩
  exact ⟨least, greatest⟩

theorem pending_lead? (b : UInt8) : Pending (lead? b) := by
  unfold lead?
  repeat' split
  all_goals first
    | exact pending_some (by decide) (by decide)
    | exact pending_none

/-- An octet gives at most one piece, counting the one that is owed after it. -/
theorem length_start (b : UInt8) :
    (start b).1.length + (missing (start b).2).length ≤ 1 ∧ Pending (start b).2 := by
  have pending := pending_lead? b
  unfold start
  split
  · exact ⟨Nat.le_refl 1, pending_none⟩
  · cases leads : lead? b with
    | none => exact ⟨Nat.le_refl 1, pending_none⟩
    | some o =>
      rw [leads] at pending
      exact ⟨Nat.le_refl 1, pending⟩

theorem length_feed (owed : Option Owed) (b : UInt8) :
    (feed owed b).1.length + (missing (feed owed b).2).length ≤ 1 + (missing owed).length ∧
      Pending (feed owed b).2 := by
  have begins := length_start b
  cases owed with
  | none => exact ⟨Nat.le_trans begins.1 (Nat.le_add_right _ _), begins.2⟩
  | some o =>
    unfold feed
    simp only
    split
    · cases o.after with
      | zero => exact ⟨by simp [missing], pending_none⟩
      | succ after => exact ⟨by simp [missing], pending_some (by decide) (by decide)⟩
    · refine ⟨?_, begins.2⟩
      simp only [List.length_cons, missing, Option.isSome_some, if_true,
        List.length_nil] at begins ⊢
      omega

theorem feed_ne (owed : Option Owed) (b : UInt8) : feed owed b ≠ ([], none) := by
  have first : start b ≠ ([], none) := by
    unfold start
    split
    · simp
    · split <;> simp
  unfold feed
  split
  · exact first
  · split
    · simp only
      split <;> simp
    · simp

/-- Octets give at least one piece, if there is any or one is owed. -/
theorem pieces_eq_nil {octets : Octets} {owed : Option Owed} (none : pieces owed octets = []) :
    owed = .none ∧ octets = [] := by
  induction octets generalizing owed with
  | nil =>
    cases owed with
    | none => exact ⟨rfl, rfl⟩
    | some owed => simp [pieces] at none
  | cons b rest ih =>
    obtain ⟨here, later⟩ := List.append_eq_nil_iff.mp none
    exact absurd (Prod.ext here (ih later).1) (feed_ne owed b)

end Utf8

namespace Percent

theorem octets_eq_nil {cs : List Char} (none : octets cs = []) : cs = [] := by
  have some : ∀ c, Utf8.encode [c] ≠ [] := by simp [Utf8.encode, String.utf8EncodeChar_ne_nil]
  unfold octets at none
  split at none
  · rfl
  · split at none
    · cases none
    · exact absurd (List.append_eq_nil_iff.mp none).1 (some _)
  · exact absurd (List.append_eq_nil_iff.mp none).1 (some _)

@[simp] theorem decode_eq_nil_iff {cs : List Char} : decode cs = [] ↔ cs = [] := by
  constructor
  · intro none
    exact octets_eq_nil (Utf8.pieces_eq_nil (List.map_eq_nil_iff.mp none)).2
  · rintro rfl
    rfl

/-- Whether a text has an escape: a percent sign before two hexadecimal digits. -/
def hasEscape : List Char → Bool
  | [] => false
  | '%' :: high :: low :: rest =>
    (Text.isHexDigit high && Text.isHexDigit low) || hasEscape (high :: low :: rest)
  | _ :: rest => hasEscape rest

/-- Whether a text goes on as an escape does after its percent sign. -/
def StartsHex (cs : List Char) : Prop :=
  ∃ high low, [high, low] <+: cs ∧ Text.isHexDigit high = true ∧ Text.isHexDigit low = true

theorem octets_of_ne {c : Char} (other : c ≠ '%') (rest : List Char) :
    octets (c :: rest) = String.utf8EncodeChar c ++ octets rest := by
  rw [octets]
  · simp [Utf8.encode]
  · rintro _ _ _ rfl
    exact absurd rfl other

theorem octets_of_mark {rest : List Char} (plain : ¬ StartsHex rest) :
    octets ('%' :: rest) = String.utf8EncodeChar '%' ++ octets rest := by
  match rest with
  | [] => rfl
  | [c] => rfl
  | high :: low :: rest =>
    rw [octets]
    split
    · rename_i h l highValue lowValue
      refine absurd ⟨high, low, ⟨rest, rfl⟩, ?_, ?_⟩ plain
      · rw [Text.isHexDigit, highValue]
        rfl
      · rw [Text.isHexDigit, lowValue]
        rfl
    · simp [Utf8.encode]

theorem octets_of_escape {high low : Char} (hex : Text.isHexDigit high = true)
    (hex' : Text.isHexDigit low = true)
    (rest : List Char) : ∃ b, octets ('%' :: high :: low :: rest) = b :: octets rest := by
  obtain ⟨h, highValue⟩ := Option.isSome_iff_exists.mp hex
  obtain ⟨l, lowValue⟩ := Option.isSome_iff_exists.mp hex'
  rw [octets]
  simp only [highValue, lowValue]
  exact ⟨_, rfl⟩

theorem hexValue?_upperHexDigit : ∀ n < 16, Text.hexValue? (upperHexDigit n) = some n := by decide

theorem octets_escape (b : UInt8) (rest : List Char) :
    octets (escape b ++ rest) = b :: octets rest := by
  have bound := b.toNat_lt
  have whole : 16 * (b.toNat / 16) + b.toNat % 16 = b.toNat := Nat.div_add_mod _ 16
  simp only [escape, List.cons_append, List.nil_append]
  rw [octets]
  simp only [hexValue?_upperHexDigit (b.toNat / 16) (by omega),
    hexValue?_upperHexDigit (b.toNat % 16) (by omega), whole, UInt8.ofNat_toNat]

theorem octets_escapes (bs : Octets) (rest : List Char) :
    octets (bs.flatMap escape ++ rest) = bs ++ octets rest := by
  induction bs with
  | nil => rfl
  | cons b bs ih =>
    rw [List.flatMap_cons, List.append_assoc, octets_escape, ih]
    rfl

section Encoded

variable {keep : Char → Bool} (keeps : Keeps keep)
    (hex : ∀ c, Text.isHexDigit c = true → keep c = true)

theorem not_startsHex_encode {cs : List Char} (plain : ¬ StartsHex cs) :
    ¬ StartsHex (encode keep cs) := by
  rintro ⟨high, low, first, isHex, isHex'⟩
  refine plain ⟨high, low, isPrefix_of_encode ?_ first, isHex, isHex'⟩
  simp only [List.mem_cons, List.not_mem_nil, or_false, not_or]
  constructor
  · rintro rfl
    cases isHex
  · rintro rfl
    cases isHex'

include keeps

/-- A character that starts no escape is encoded to what stands for its octets. -/
theorem octets_encode_cons {c : Char} {cs : List Char} (plain : c = '%' → ¬ StartsHex cs) :
    octets (encode keep (c :: cs)) = String.utf8EncodeChar c ++ octets (encode keep cs) := by
  rw [encode_cons]
  by_cases mark : c = '%'
  · rw [if_pos (mark ▸ keeps.mark), mark]
    exact octets_of_mark (not_startsHex_encode (plain mark))
  · split
    · exact octets_of_ne mark _
    · exact octets_escapes _ _

include hex

/-- An escape stays as it is and stands for an octet. -/
theorem octets_encode_escape {high low : Char} (isHex : Text.isHexDigit high = true)
    (isHex' : Text.isHexDigit low = true) (cs : List Char) :
    ∃ b, octets (encode keep ('%' :: high :: low :: cs)) = b :: octets (encode keep cs) := by
  rw [encode_cons_of_kept keeps.mark, encode_cons_of_kept (hex high isHex),
    encode_cons_of_kept (hex low isHex')]
  exact octets_of_escape isHex isHex' _

/-- An encoded text stands for no more pieces than it has characters. -/
theorem length_pieces_le (cs : List Char) {owed : Option Utf8.Owed} (pending : Utf8.Pending owed) :
    (Utf8.pieces owed (octets (encode keep cs))).length ≤
    cs.length + (Utf8.missing owed).length := by
  induction length : cs.length using Nat.strongRecOn generalizing cs owed with
  | _ n ih =>
    subst length
    cases cs with
    | nil =>
      cases owed <;> simp [octets, Utf8.pieces, Utf8.missing]
    | cons c cs =>
      by_cases escape : c = '%' ∧ StartsHex cs
      · obtain ⟨rfl, high, low, ⟨rest, rfl⟩, isHex, isHex'⟩ := escape
        obtain ⟨b, octets⟩ := octets_encode_escape keeps hex isHex isHex' rest
        have fed := Utf8.length_feed owed b
        have later := ih rest.length (by simp; omega) rest fed.2 rfl
        simp only [List.cons_append, List.nil_append, octets, Utf8.pieces, List.length_append,
          List.length_cons]
        omega
      · have plain : c = '%' → ¬ StartsHex cs := fun mark starts => escape ⟨mark, starts⟩
        have later := ih cs.length (by simp) cs Utf8.pending_none rfl
        rw [octets_encode_cons keeps plain, Utf8.pieces_char pending]
        simp only [Utf8.missing, Option.isSome_none, Bool.false_eq_true, if_false,
          List.length_nil, Nat.add_zero, List.length_append, List.length_cons] at later ⊢
        omega

omit hex in
theorem decode_encode_cons {c : Char} {cs : List Char} (plain : c = '%' → ¬ StartsHex cs) :
    decode (encode keep (c :: cs)) = c :: decode (encode keep cs) := by
  simp only [decode, Utf8.decode]
  rw [octets_encode_cons keeps plain, Utf8.pieces_none_char, List.map_cons, Option.getD_some]

/-- An escape is decoded to one character at most, so the text does not come back. -/
theorem decode_encode_escape {high low : Char} (isHex : Text.isHexDigit high = true)
    (isHex' : Text.isHexDigit low = true) (cs : List Char) :
    decode (encode keep ('%' :: high :: low :: cs)) ≠ '%' :: high :: low :: cs := by
  obtain ⟨b, octets⟩ := octets_encode_escape keeps hex isHex isHex' cs
  intro decoded
  have length := congrArg List.length decoded
  have fed := Utf8.length_feed none b
  have later := length_pieces_le keeps hex cs fed.2
  have owed : (Utf8.missing none).length = 0 := rfl
  simp only [decode, Utf8.decode, octets, Utf8.pieces, List.length_map, List.length_append,
    List.length_cons] at length
  omega

/-- A text is decoded from its encoding exactly if it has no escape of its own. -/
theorem decode_encode_iff (cs : List Char) :
    decode (encode keep cs) = cs ↔ hasEscape cs = false := by
  induction cs using hasEscape.induct with
  | case1 => exact iff_of_true rfl rfl
  | case2 high low rest ih =>
    by_cases escape : (Text.isHexDigit high && Text.isHexDigit low) = true
    · rw [Bool.and_eq_true] at escape
      refine iff_of_false (decode_encode_escape keeps hex escape.1 escape.2 rest) ?_
      simp [hasEscape, escape]
    · have plain : ¬ StartsHex (high :: low :: rest) := by
        rintro ⟨h, l, first, isHex, isHex'⟩
        obtain ⟨rfl, second⟩ := List.cons_prefix_cons.mp first
        obtain ⟨rfl, -⟩ := List.cons_prefix_cons.mp second
        simp [isHex, isHex'] at escape
      rw [decode_encode_cons keeps fun _ => plain, List.cons_inj_right, ih, hasEscape,
        Bool.eq_false_iff.mpr escape, Bool.false_or]
  | case3 c rest other ih =>
    have plain : c = '%' → ¬ StartsHex rest := by
      rintro rfl ⟨high, low, ⟨more, rfl⟩, -⟩
      exact other high low more rfl rfl
    rw [decode_encode_cons keeps plain, List.cons_inj_right, ih, hasEscape]
    exact other

end Encoded

end Percent

end Courier
