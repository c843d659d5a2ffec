import Courier.Auth.Credentials

/-!
# Texts that have octets

A raw text has octets exactly if it consists of characters (`RawText.encode_eq_ok_iff`), and
credentials have them exactly if the user name and the password do (`Credentials.isEncodable_iff`).
-/

namespace Courier

namespace RawText

/-- Whether a text has octets. -/
def IsEncodable (t : RawText) : Prop := ∃ octets, t.encode = .ok octets

theorem isEmpty_iff {t : RawText} : t.isEmpty = true ↔ t = (("" : String) : RawText) := by
  obtain ⟨chars⟩ := t
  cases chars with
  | nil => exact iff_of_true rfl rfl
  | cons c rest => exact iff_of_false nofun nofun

@[simp] theorem characters?_ofList (cs : List Char) : (ofList cs).characters? = some cs := by
  unfold characters? ofList
  induction cs with
  | nil => rfl
  | cons c cs ih => simp [RawChar.char?, ih]

/-- A text whose characters are known consists of them. -/
theorem eq_of_characters? {t : RawText} {cs : List Char} (known : t.characters? = some cs) :
    t = ofList cs := by
  obtain ⟨chars⟩ := t
  unfold characters? at known
  unfold ofList
  congr 1
  induction chars generalizing cs with
  | nil =>
    cases known
    rfl
  | cons c rest ih =>
    cases c with
    | surrogate distance => simp [RawChar.char?] at known
    | char c =>
      simp only [List.mapM_cons, RawChar.char?, Option.bind_eq_bind, Option.bind_some,
        Option.bind_eq_some_iff, Option.pure_def, Option.some.injEq] at known
      obtain ⟨cs', tail, rfl⟩ := known
      rw [List.map_cons, ← ih tail]

@[simp] theorem encode_ofList (cs : List Char) : (ofList cs).encode = .ok (Utf8.encode cs) := by
  simp [encode]

theorem encode_eq_ok_iff {t : RawText} {octets : Octets} :
    t.encode = .ok octets ↔ ∃ cs, t = ofList cs ∧ octets = Utf8.encode cs := by
  constructor
  · intro encoded
    unfold encode at encoded
    split at encoded
    · rename_i cs known
      cases encoded
      exact ⟨cs, eq_of_characters? known, rfl⟩
    · cases encoded
  · rintro ⟨cs, rfl, rfl⟩
    exact encode_ofList cs

theorem isEncodable_iff {t : RawText} : t.IsEncodable ↔ ∃ cs, t = ofList cs := by
  unfold IsEncodable
  simp only [encode_eq_ok_iff]
  constructor
  · rintro ⟨octets, cs, consists, -⟩
    exact ⟨cs, consists⟩
  · rintro ⟨cs, consists⟩
    exact ⟨_, cs, consists, rfl⟩

theorem ofList_append (first second : List Char) :
    ofList first ++ ofList second = ofList (first ++ second) :=
  congrArg RawText.mk List.map_append.symm

/-- Two texts together consist of characters exactly if each of them does. -/
theorem append_eq_ofList_iff {first second : RawText} :
    (∃ cs, first ++ second = ofList cs) ↔ (∃ cs, first = ofList cs) ∧ ∃ cs, second = ofList cs := by
  constructor
  · rintro ⟨cs, together⟩
    obtain ⟨before, after, rfl, first', second'⟩ :=
      List.map_eq_append_iff.mp (congrArg chars together).symm
    exact ⟨⟨before, congrArg RawText.mk first'.symm⟩, ⟨after, congrArg RawText.mk second'.symm⟩⟩
  · rintro ⟨⟨before, rfl⟩, ⟨after, rfl⟩⟩
    exact ⟨_, ofList_append before after⟩

end RawText

namespace Credentials

/-- Whether credentials can be presented. -/
def IsEncodable (c : Credentials) : Prop := ∃ octets, c.octets = .ok octets

/-- Credentials can be presented exactly if the user name and the password have octets. -/
theorem isEncodable_iff {c : Credentials} :
    c.IsEncodable ↔ c.username.IsEncodable ∧ c.password.IsEncodable := by
  have colon : ∃ cs, ((":" : String) : RawText) = RawText.ofList cs := ⟨_, rfl⟩
  change RawText.IsEncodable (c.username ++ ((":" : String) : RawText) ++ c.password) ↔ _
  simp only [RawText.isEncodable_iff, RawText.append_eq_ofList_iff, colon, and_true]

/-- Credentials that can be presented have a header value. -/
theorem IsEncodable.basicHeader {c : Credentials} (encodable : c.IsEncodable) :
    ∃ value, c.basicHeader = .ok value := by
  obtain ⟨octets, encoded⟩ := encodable
  exact ⟨basicValue octets, by rw [Credentials.basicHeader, encoded]; rfl⟩

/-- Credentials that cannot be presented have no header value, for the reason that they have no
    octets. -/
theorem basicHeader_eq_error {c : Credentials} {error : RawText.Unencodable} :
    c.basicHeader = .error error ↔ c.octets = .error error := by
  unfold basicHeader
  cases c.octets <;> simp [Except.map]

theorem octets_ofList (username password : List Char) :
    (Credentials.mk (.ofList username) (.ofList password)).octets =
      .ok (Utf8.encode (username ++ ':' :: password)) := by
  change (RawText.ofList username ++ RawText.ofList [':'] ++ RawText.ofList password).encode = _
  rw [RawText.ofList_append, RawText.ofList_append, RawText.encode_ofList, List.append_assoc]
  rfl

end Credentials

end Courier
