import Courier.Proofs.Case
import Courier.Proofs.Segments
import Courier.Url.Name
import Mathlib

/-!
# Hosts in normal form

A host is normalized to a name or to an IPv6 address (`Host.IsNormal`), and to nothing only if it
was nothing. None of the characters of either ends an authority or its user information. The text of
a normal host is normalized to the host again, with a name in lower case (`Host.normalize_text`),
unless the host looks like an IPv4 address and is none. That can only happen to a host that came
from its ASCII form.
-/

namespace Courier

/-! ## Lower case -/

theorem toLower_of_wide {c : Char} (wide : 128 ≤ c.toNat) : c.toLower = c := by
  apply Char.toLower_eq_of_not_isUpper
  intro upper
  simp only [Char.isUpper, decide_eq_true_eq, UInt32.le_iff_toNat_le] at upper
  have code : c.toNat = c.val.toNat := rfl
  have high : 'Z'.val.toNat = 90 := rfl
  omega

theorem map_toLower_of_own {cs : List Char} (own : ∀ c ∈ cs, c.toLower = c) :
    cs.map Char.toLower = cs := by
  conv => rhs; rw [← List.map_id cs]
  exact List.map_congr_left own

theorem of_ascii {P : Char → Prop} (ascii : ∀ n < 128, P (Char.ofNat n)) {c : Char}
    (low : c.toNat < 128) : P c := by
  rw [← Char.ofNat_toNat c]
  exact ascii c.toNat low

/-- What holds of ASCII, and of every other character, which is its own lower case, holds of all
    characters. -/
theorem forall_of_ascii {P : Char → Prop} (ascii : ∀ n < 128, P (Char.ofNat n))
    (wide : ∀ c : Char, c.toLower = c → P c) (c : Char) : P c := by
  rcases Nat.lt_or_ge c.toNat 128 with low | high
  · exact of_ascii ascii low
  · exact wide c (toLower_of_wide high)

theorem toLower_of_digit :
    ∀ c : Char, c.toLower.isDigit = true ∨ c.toLower = '.' → c.toLower = c := by
  apply forall_of_ascii
  · decide
  · exact fun c own _ => own

theorem toLower_of_isDigit : ∀ c : Char, c.isDigit = true → c.toLower = c := by
  apply forall_of_ascii
  · decide
  · exact fun c own _ => own

namespace Text

theorem lowerAfter_of_ascii {cs : List Char} (ascii : ∀ c ∈ cs, c.toNat < 128)
    (before : List Char) :
    lowerAfter before cs = cs.map Char.toLower := by
  induction cs generalizing before with
  | nil => rfl
  | cons c rest ih =>
    obtain ⟨low, others⟩ := List.forall_mem_cons.mp ascii
    have other : c ≠ 'Σ' := by
      rintro rfl
      exact absurd low (by decide)
    rw [lowerAfter, if_neg other, lowerChar, if_pos low, ih others]
    rfl

/-- Inside ASCII every character of a text is brought to lower case by itself. -/
theorem lower_of_ascii {cs : List Char} (ascii : ∀ c ∈ cs, c.toNat < 128) :
    lower (String.ofList cs) = String.ofList (cs.map Char.toLower) := by
  rw [lower, String.toList_ofList, lowerAfter_of_ascii ascii]

theorem lower_map_toLower {cs : List Char} (ascii : ∀ c ∈ cs, c.toNat < 128) :
    lower (String.ofList (cs.map Char.toLower)) = lower (String.ofList cs) := by
  rw [← lower_of_ascii ascii, lower_lower]

end Text

namespace Url.Host

theorem keepsInName_toLower : ∀ c : Char, keepsInName c = true → keepsInName c.toLower = true := by
  apply forall_of_ascii
  · decide +kernel
  · intro c own kept
    rwa [own]

/-- A host in normal form: a name or an IPv6 address. -/
def IsNormal (host : List Char) : Prop := (∀ c ∈ host, keepsInName c = true) ∨ isIpv6 host = true

/-- A host that is an IPv4 address if it looks like one. -/
def IsGenuine (host : List Char) : Prop := looksLikeIpv4 host = true → isIpv4 host = true

/-- The ASCII forms of names consist of the characters of such forms. -/
def AreForms (asciiForm? : List Char → Option (List Char)) : Prop :=
  ∀ {name form}, asciiForm? name = some form → form ≠ [] ∧ ∀ c ∈ form, isFormChar c = true

theorem areForms_noForm : AreForms noForm := by
  intro name form coded
  cases coded

theorem areForms_codecs [Codecs] : AreForms Codecs.asciiForm? := Codecs.asciiForm_form

theorem keepsInName_of_isFormChar {c : Char} (member : isFormChar c = true) :
    keepsInName c = true := by
  simp only [isFormChar, Bool.or_eq_true, beq_iff_eq] at member
  rcases member with ((letter | digit) | rfl) | rfl
  · simp [keepsInName, Char.isAlphanum, Char.isAlpha, letter]
  · simp [keepsInName, Char.isAlphanum, digit]
  · rfl
  · rfl

theorem toLower_of_isFormChar : ∀ {c : Char}, isFormChar c = true → c.toLower = c := by
  intro c
  revert c
  apply forall_of_ascii
  · decide
  · exact fun c own _ => own

/-! ## IPv4 addresses -/

theorem isDigit_of_looksLikeIpv4 {cs : List Char} (looks : looksLikeIpv4 cs = true) :
    ∀ c ∈ cs, c.isDigit = true ∨ c = '.' := by
  simp only [looksLikeIpv4, Bool.and_eq_true, List.all_eq_true] at looks
  exact forall_of_splitOn (fun c => c.isDigit = true ∨ c = '.') (.inr rfl)
    fun piece member c within => .inl ((looks.2 piece member).2 c within)

theorem keepsInName_of_looksLikeIpv4 {cs : List Char} (looks : looksLikeIpv4 cs = true) :
    ∀ c ∈ cs, keepsInName c = true := by
  intro c member
  rcases isDigit_of_looksLikeIpv4 looks c member with digit | rfl
  · simp [keepsInName, Char.isAlphanum, digit]
  · decide

/-- A name whose normal form looks like an address is this form. -/
theorem eq_of_looksLikeIpv4_encode {cs : List Char}
    (looks : looksLikeIpv4 (Percent.encode keepsInName (cs.map Char.toLower)) = true) :
    Percent.encode keepsInName (cs.map Char.toLower) = cs := by
  have digits := isDigit_of_looksLikeIpv4 looks
  have same : Percent.encode keepsInName (cs.map Char.toLower) = cs.map Char.toLower := by
    apply Percent.encode_of_unmarked
    intro mark
    rcases digits '%' mark with digit | dot
    · cases digit
    · cases dot
  rw [same] at digits ⊢
  exact map_toLower_of_own fun c member =>
    toLower_of_digit c (digits c.toLower (List.mem_map_of_mem member))

/-! ## IPv6 addresses -/

/-- Whether a character may stand in an address without a zone. -/
def IsAddressChar (c : Char) : Prop := Text.isHexDigit c = true ∨ c = ':' ∨ c = '.'

theorem isAddressChar_of_group {piece : List Char} (group : isIpv6Group piece = true) :
    ∀ c ∈ piece, IsAddressChar c := by
  simp only [isIpv6Group, Bool.and_eq_true, List.all_eq_true] at group
  exact fun c member => .inl (group.2 c member)

theorem isHexDigit_of_isDigit {c : Char} (digit : c.isDigit = true) : Text.isHexDigit c = true := by
  simp only [Char.isDigit, Bool.and_eq_true, decide_eq_true_eq] at digit
  simp only [Text.isHexDigit, Text.hexValue?]
  rw [if_pos ⟨digit.1, digit.2⟩]
  rfl

theorem isAddressChar_of_isIpv4 {piece : List Char} (address : isIpv4 piece = true) :
    ∀ c ∈ piece, IsAddressChar c := by
  simp only [isIpv4, Bool.and_eq_true, List.all_eq_true] at address
  refine forall_of_splitOn IsAddressChar (.inr (.inr rfl)) fun octet member c within => .inl ?_
  have digits := address.2 octet member
  simp only [isIpv4Octet, Bool.and_eq_true, List.all_eq_true] at digits
  exact isHexDigit_of_isDigit (digits.1.1.1.2 c within)

theorem isAddressChar_of_countGroups? {last : Bool} {pieces : List (List Char)} {count : Nat}
    (counted : countGroups? last pieces = some count) :
    ∀ piece ∈ pieces, ∀ c ∈ piece, IsAddressChar c := by
  induction pieces generalizing count with
  | nil => simp
  | cons piece rest ih =>
    rw [List.forall_mem_cons]
    cases rest with
    | nil =>
      simp only [countGroups?] at counted
      split at counted
      · rename_i group
        exact ⟨isAddressChar_of_group group, by simp⟩
      · split at counted
        · rename_i address
          rw [Bool.and_eq_true] at address
          exact ⟨isAddressChar_of_isIpv4 address.2, by simp⟩
        · cases counted
    | cons next rest =>
      simp only [countGroups?] at counted
      split at counted
      · rename_i group
        obtain ⟨others, counted, -⟩ := Option.map_eq_some_iff.mp counted
        exact ⟨isAddressChar_of_group group, ih counted⟩
      · cases counted

theorem isAddressChar_of_countText? {last : Bool} {cs : List Char} {count : Nat}
    (counted : countText? last cs = some count) : ∀ c ∈ cs, IsAddressChar c := by
  unfold countText? at counted
  split at counted
  · rename_i none
    simp [List.isEmpty_iff.mp none]
  · exact forall_of_splitOn IsAddressChar (.inr (.inl rfl)) (isAddressChar_of_countGroups? counted)

theorem eq_of_splitAtGap? {cs before after : List Char}
    (gap : splitAtGap? cs = some (before, after)) :
    cs = before ++ ':' :: ':' :: after := by
  induction cs generalizing before with
  | nil => cases gap
  | cons c rest ih =>
    unfold splitAtGap? at gap
    split at gap
    · rename_i first
      cases gap
      simpa using first
    · rename_i first
      obtain ⟨rfl, rfl⟩ := List.cons.inj first
      obtain ⟨⟨before', after'⟩, gap', split⟩ := Option.map_eq_some_iff.mp gap
      cases split
      rw [ih gap']
      rfl
    · cases gap

/-- What an address consists of: its groups, and the colons that stand for the missing ones. -/
theorem isUnzonedIpv6_cases {host : List Char} (address : isUnzonedIpv6 host = true) :
    countText? true host = some 8 ∨ ∃ before after m n, host = before ++ ':' :: ':' :: after ∧
      countText? false before = some m ∧ countText? true after = some n := by
  unfold isUnzonedIpv6 at address
  split at address
  · exact .inl (by simpa using address)
  · rename_i before after gap
    split at address
    · rename_i m n counted counted'
      exact .inr ⟨before, after, m, n, eq_of_splitAtGap? gap, counted, counted'⟩
    · cases address

theorem isAddressChar_of_isUnzonedIpv6 {host : List Char} (address : isUnzonedIpv6 host = true) :
    ∀ c ∈ host, IsAddressChar c := by
  rcases isUnzonedIpv6_cases address with counted | ⟨before, after, m, n, rfl, counted, counted'⟩
  · exact isAddressChar_of_countText? counted
  · rw [List.forall_mem_append, List.forall_mem_cons, List.forall_mem_cons]
    exact ⟨isAddressChar_of_countText? counted, .inr (.inl rfl), .inr (.inl rfl),
      isAddressChar_of_countText? counted'⟩

theorem colon_mem_of_isUnzonedIpv6 {host : List Char} (address : isUnzonedIpv6 host = true) :
    ':' ∈ host := by
  rcases isUnzonedIpv6_cases address with counted | ⟨before, after, m, n, rfl, -⟩
  · refine Decidable.byContradiction fun clear => ?_
    -- without a colon there is one piece, which counts for two groups at most
    have single : splitOn ':' host = [host] := by
      rw [← List.append_nil host, splitOn_append clear]
      simp [splitOn]
    unfold countText? at counted
    rw [single] at counted
    simp only [countGroups?] at counted
    split at counted
    · cases counted
    · split at counted
      · cases counted
      · split at counted <;> cases counted
  · simp

/-- An address is one without a zone, with a percent sign and the zone behind it if it has one. -/
theorem isIpv6_cases {host : List Char} (address : isIpv6 host = true) :
    isUnzonedIpv6 host = true ∨ ∃ before zone, host = before ++ '%' :: zone ∧
      isUnzonedIpv6 before = true ∧ ∀ c ∈ zone, isZoneChar c = true := by
  have split : host.takeWhile (· ≠ '%') ++ host.dropWhile (· ≠ '%') = host :=
    List.takeWhile_append_dropWhile
  simp only [isIpv6, Bool.and_eq_true] at address
  obtain ⟨unzoned, zoned⟩ := address
  cases rest : host.dropWhile (· ≠ '%') with
  | nil =>
    rw [rest, List.append_nil] at split
    exact .inl (split ▸ unzoned)
  | cons c zone =>
    obtain rfl : c = '%' := by
      have first := List.head?_dropWhile_not (· ≠ '%') host
      rw [rest] at first
      simpa using first
    rw [rest] at split zoned
    simp only [Bool.and_eq_true, List.all_eq_true] at zoned
    exact .inr ⟨_, zone, split.symm, unzoned, zoned.2⟩

/-- Whether a character may stand in an address, or in the zone of one. -/
theorem isAddressChar_of_isIpv6 {host : List Char} (address : isIpv6 host = true) :
    ∀ c ∈ host, IsAddressChar c ∨ c = '%' ∨ isZoneChar c = true := by
  rcases isIpv6_cases address with unzoned | ⟨before, zone, rfl, unzoned, zoned⟩
  · exact fun c member => .inl (isAddressChar_of_isUnzonedIpv6 unzoned c member)
  · rw [List.forall_mem_append, List.forall_mem_cons]
    exact ⟨fun c member => .inl (isAddressChar_of_isUnzonedIpv6 unzoned c member), .inr (.inl rfl),
      fun c member => .inr (.inr (zoned c member))⟩

theorem colon_mem_of_isIpv6 {host : List Char} (address : isIpv6 host = true) : ':' ∈ host := by
  rcases isIpv6_cases address with unzoned | ⟨before, zone, rfl, unzoned, -⟩
  · exact colon_mem_of_isUnzonedIpv6 unzoned
  · exact List.mem_append_left _ (colon_mem_of_isUnzonedIpv6 unzoned)

/-! ## Normal forms -/

/-- Whether a character ends a host in a URL, or the user information in front of it. -/
def EndsHost (c : Char) : Prop := c = '/' ∨ c = '?' ∨ c = '#' ∨ c = '@'

/-- What ends a host stands in none. -/
theorem IsNormal.not_mem {host : List Char} (normal : IsNormal host) {c : Char}
    (mark : EndsHost c) :
    c ∉ host := by
  intro member
  rcases normal with name | address
  · have outside : keepsInName c = false := by rcases mark with rfl | rfl | rfl | rfl <;> rfl
    exact Bool.false_ne_true (outside.symm.trans (name c member))
  · have foreign : Text.isHexDigit c = false ∧ c ≠ ':' ∧ c ≠ '.' ∧ c ≠ '%' ∧
      isZoneChar c = false := by
      rcases mark with rfl | rfl | rfl | rfl <;> decide
    obtain ⟨hex, colon, point, percent, zone⟩ := foreign
    rcases isAddressChar_of_isIpv6 address c member with (digit | rfl | rfl) | rfl | zoned
    · exact Bool.false_ne_true (hex.symm.trans digit)
    · exact colon rfl
    · exact point rfl
    · exact percent rfl
    · exact Bool.false_ne_true (zone.symm.trans zoned)

/-- A normal host with a colon is an address. -/
theorem IsNormal.isIpv6_of_colon {host : List Char} (normal : IsNormal host) (colon : ':' ∈ host) :
    isIpv6 host = true := by
  rcases normal with name | address
  · exact absurd (name ':' colon) (by decide)
  · exact address

theorem keeps_keepsInName : Percent.Keeps keepsInName := ⟨by decide, by decide⟩

variable {asciiForm? : List Char → Option (List Char)}

/-- What normalizing a host comes to. -/
theorem normalize_cases {cs host : List Char} (normalized : normalize asciiForm? cs = .ok host) :
    (cs = [] ∧ host = []) ∨ (looksLikeIpv4 cs = true ∧ isIpv4 cs = true ∧ host = cs) ∨
      (isBracketed cs = true ∧ isIpv6 host = true ∧ host = (cs.drop 1).dropLast) ∨
      (looksLikeIpv4 cs = false ∧ isBracketed cs = false ∧ cs.all (·.toNat < 128) = true ∧
        host = Percent.encode keepsInName (cs.map Char.toLower)) ∨
      (isBracketed cs = false ∧ cs.all (·.toNat < 128) = false ∧
        asciiForm? (Text.lower (String.ofList cs)).toList = some host) := by
  unfold normalize at normalized
  split at normalized
  · rename_i none
    cases normalized
    exact .inl ⟨List.isEmpty_iff.mp none, rfl⟩
  · split at normalized
    · rename_i looks
      split at normalized
      · rename_i address
        cases normalized
        exact .inr (.inl ⟨looks, address, rfl⟩)
      · cases normalized
    · rename_i looks
      split at normalized
      · rename_i bracketed
        simp only at normalized
        split at normalized
        · rename_i address
          cases normalized
          exact .inr (.inr (.inl ⟨bracketed, address, rfl⟩))
        · cases normalized
      · rename_i bare
        split at normalized
        · rename_i ascii
          cases normalized
          exact .inr (.inr (.inr (.inl
            ⟨Bool.eq_false_iff.mpr looks, Bool.eq_false_iff.mpr bare, ascii, rfl⟩)))
        · rename_i wide
          split at normalized
          · rename_i form coded
            cases normalized
            exact .inr
              (.inr (.inr (.inr ⟨Bool.eq_false_iff.mpr bare, Bool.eq_false_iff.mpr wide, coded⟩)))
          · cases normalized

theorem normalize_normal (forms : AreForms asciiForm?) {cs host : List Char}
    (normalized : normalize asciiForm? cs = .ok host) : IsNormal host := by
  rcases normalize_cases normalized with
    ⟨-, rfl⟩ | ⟨looks, -, rfl⟩ | ⟨-, address, -⟩ | ⟨-, -, -, rfl⟩ | ⟨-, -, coded⟩
  · exact .inl (by simp)
  · exact .inl (keepsInName_of_looksLikeIpv4 looks)
  · exact .inr address
  · exact .inl (keeps_keepsInName.encode _)
  · exact .inl fun c member => keepsInName_of_isFormChar ((forms coded).2 c member)

/-- A host that did not come from an ASCII form does not only look like an IPv4 address. -/
theorem normalize_genuine {cs host : List Char} (normalized : normalize noForm cs = .ok host) :
    IsGenuine host := by
  intro looks
  rcases normalize_cases normalized with
    ⟨-, rfl⟩ | ⟨-, address, rfl⟩ | ⟨-, address, -⟩ | ⟨other, -, -, rfl⟩ | ⟨-, -, coded⟩
  · simp [looksLikeIpv4, splitOn] at looks
  · exact address
  · rcases isDigit_of_looksLikeIpv4 looks ':' (colon_mem_of_isIpv6 address) with digit | dot
    · cases digit
    · cases dot
  · rw [eq_of_looksLikeIpv4_encode looks, other] at looks
    cases looks
  · cases coded

theorem normalize_eq_nil (forms : AreForms asciiForm?) {cs host : List Char}
    (normalized : normalize asciiForm? cs = .ok host) : host = [] ↔ cs = [] := by
  rcases normalize_cases normalized with
    ⟨rfl, rfl⟩ | ⟨-, -, rfl⟩ | ⟨bracketed, address, -⟩ | ⟨-, -, -, rfl⟩ | ⟨-, wide, coded⟩
  · exact Iff.rfl
  · exact Iff.rfl
  · have some : host ≠ [] := by
      rintro rfl
      cases colon_mem_of_isIpv6 address
    have some' : cs ≠ [] := by
      rintro rfl
      simp [isBracketed] at bracketed
    simp [some, some']
  · simp
  · have some' : cs ≠ [] := by
      rintro rfl
      cases wide
    simp [(forms coded).1, some']

/-- A normal host as it stands in a text. -/
def text (host : List Char) : List Char := if host.contains ':' then '[' :: host ++ [']'] else host

theorem lt_of_keepsInName {c : Char} (kept : keepsInName c = true) : c.toNat < 128 := by
  simp only [keepsInName, Bool.or_eq_true, List.contains_iff_mem] at kept
  rcases kept with letter | mark
  · simp only [Char.isAlphanum, Char.isAlpha, Char.isUpper, Char.isLower, Char.isDigit,
      Bool.or_eq_true,
      Bool.and_eq_true, decide_eq_true_eq, UInt32.le_iff_toNat_le, ge_iff_le] at letter
    have code : c.toNat = c.val.toNat := rfl
    have upper : 'Z'.val.toNat = 90 := rfl
    have lower : 'z'.val.toNat = 122 := rfl
    have digit : '9'.val.toNat = 57 := rfl
    omega
  · refine of_decide_eq_true
      ((List.all_eq_true (p := fun c => decide (c.toNat < 128))).mp ?_ c mark)
    decide

theorem toLower_of_looksLikeIpv4 {cs : List Char} (looks : looksLikeIpv4 cs = true) :
    cs.map Char.toLower = cs := by
  refine map_toLower_of_own fun c member => ?_
  rcases isDigit_of_looksLikeIpv4 looks c member with digit | rfl
  · exact toLower_of_isDigit c digit
  · rfl

/-- A normal host with a name in lower case. -/
def lowered (host : List Char) : List Char :=
  if host.contains ':' then host else host.map Char.toLower

theorem normalize_address {host : List Char} (address : isIpv6 host = true) :
    normalize noForm ('[' :: host ++ [']']) = .ok host := by
  have looks : looksLikeIpv4 ('[' :: host ++ [']']) = false := by
    rw [← Bool.not_eq_true]
    intro looks
    rcases isDigit_of_looksLikeIpv4 looks '[' List.mem_cons_self with digit | dot
    · cases digit
    · cases dot
  have last : ('[' :: host ++ [']']).getLast? = some ']' := List.getLast?_concat ..
  have bracketed : isBracketed ('[' :: host ++ [']']) = true := by
    rw [isBracketed, last]
    simp
  unfold normalize
  rw [if_neg (by simp), looks, if_neg (by simp), if_pos bracketed]
  simp [address]

theorem not_isBracketed_of_name {host : List Char} (name : ∀ c ∈ host, keepsInName c = true) :
    isBracketed host = false := by
  cases host with
  | nil => rfl
  | cons c rest =>
    have other : c ≠ '[' := by
      rintro rfl
      exact absurd (name '[' List.mem_cons_self) (by decide)
    simp [isBracketed, other]

theorem normalize_name {host : List Char} (name : ∀ c ∈ host, keepsInName c = true)
    (genuine : IsGenuine host) : normalize asciiForm? host = .ok (host.map Char.toLower) := by
  have lower : ∀ c ∈ host.map Char.toLower, keepsInName c = true :=
    List.forall_mem_map.mpr fun c member => keepsInName_toLower c (name c member)
  have ascii : host.all (·.toNat < 128) = true :=
    List.all_eq_true.mpr fun c member => decide_eq_true (lt_of_keepsInName (name c member))
  unfold normalize
  split
  · rename_i none
    rw [List.isEmpty_iff.mp none]
    rfl
  · split
    · rename_i looks
      rw [if_pos (genuine looks), toLower_of_looksLikeIpv4 looks]
    · rw [not_isBracketed_of_name name, Percent.encode_of_kept lower, if_neg Bool.false_ne_true]

/-- A normal host is read from its text again, a name in lower case. -/
theorem normalize_text {host : List Char} (normal : IsNormal host) (genuine : IsGenuine host) :
    normalize noForm (text host) = .ok (lowered host) := by
  unfold text lowered
  split
  · rename_i colon
    exact normalize_address (normal.isIpv6_of_colon (List.contains_iff_mem.mp colon))
  · rename_i plain
    rcases normal with name | address
    · exact normalize_name name genuine
    · exact absurd (List.contains_iff_mem.mpr (colon_mem_of_isIpv6 address)) plain

end Url.Host

end Courier
