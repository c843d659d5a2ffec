import Courier.Proofs.Resolution
import Courier.Redirect

/-!
# Targets of redirects

The target of a redirect is what its location is joined to, with the fragment of the request put in
where it has none of its own. Putting it in takes the URL apart and together again
(`withFragment_eq_ok_iff`), so a target is in normal form whatever came before
(`Redirect.target_normal`).
-/

namespace Courier

namespace Url

theorem join_normal {origin location joined : Url} (ok : origin.join location = .ok joined) :
    joined.Normal := by
  obtain ⟨text, -, read⟩ := bind_eq_ok.mp ok
  exact parse_normal read

/-- A URL with a fragment given decoded, as it is when it has been put together again. -/
def refragmented (u : Url) (fragment : List Char) : Url :=
  { u with
    host := Host.lowered u.host
    port := Port.beside u.scheme u.port
    fragment := some (Percent.encode keepsInFragment fragment) }

theorem join_genuine {origin location joined : Url} (ok : origin.join location = .ok joined) :
    Host.IsGenuine joined.host := by
  obtain ⟨text, -, read⟩ := bind_eq_ok.mp ok
  exact parse_genuine read

theorem withFragment_eq_ok_iff {u url : Url} (normal : u.Normal) (genuine : Host.IsGenuine u.host)
    {fragment : List Char} :
    u.withFragment fragment = .ok url ↔
      ({ u.parts with fragment := some fragment } : Parts).check = .ok
      () ∧ url = u.refragmented fragment := by
  have assembled := normal.assemble_parts genuine (some fragment)
  unfold withFragment ofParts
  rw [bind_eq_ok]
  constructor
  · rintro ⟨_, checked, made⟩
    change assemble _ _ (Authority.ofText u.authority) = _ at made
    rw [assembled, Except.ok.injEq] at made
    exact ⟨checked, made.symm⟩
  · rintro ⟨checked, rfl⟩
    exact ⟨_, checked, assembled⟩

end Url

namespace Redirect

variable [Codecs] {origin : Url} {headers : Http.Headers}

/-- Whether header fields have a location that is read as this URL. -/
def Names (headers : Http.Headers) (location : Url) : Prop :=
  ∃ text, headers.get? Http.FieldName.location = some text ∧ Url.read text = .ok location

theorem Names.normal {location : Url} (names : Names headers location) : location.Normal := by
  obtain ⟨text, -, read⟩ := names
  exact Url.read_normal read

theorem Names.unique {location location' : Url} (names : Names headers location)
    (names' : Names headers location') :
    location' = location := by
  obtain ⟨text, given, read⟩ := names
  obtain ⟨text', given', read'⟩ := names'
  rw [given, Option.some.injEq] at given'
  rw [given', read', Except.ok.injEq] at read
  exact read

/-- The target of a redirect whose location is read as a URL. -/
theorem target_of_names {location : Url} (names : Names headers location) :
    target origin headers = (origin.join location >>= inheritFragment origin).mapError .url := by
  obtain ⟨text, given, read⟩ := names
  unfold target
  rw [given]
  simp only [read]
  rfl

theorem names_of_target {url : Url} (ok : target origin headers = .ok url) :
    ∃ location, Names headers location := by
  unfold target at ok
  split at ok
  · cases ok
  · rename_i text given
    obtain ⟨location, read, -⟩ := bind_eq_ok.mp (mapError_eq_ok.mp ok)
    exact ⟨location, text, given, read⟩

theorem target_eq_ok_iff {location url : Url} (names : Names headers location) :
    target origin headers = .ok url ↔
      ∃ joined, origin.join location = .ok joined ∧ inheritFragment origin joined = .ok url := by
  rw [target_of_names names, mapError_eq_ok, bind_eq_ok]

omit [Codecs] in
/-- What is joined is the target as it is, or with the fragment of the request put in. -/
theorem inheritFragment_cases {joined url : Url} (ok : inheritFragment origin joined = .ok url) :
    url = joined ∨ joined.withFragment origin.fragmentText = .ok url := by
  unfold inheritFragment at ok
  split at ok
  · exact .inr ok
  · exact .inl (Except.ok.inj ok).symm

omit [Codecs] in
theorem inheritFragment_normal {joined url : Url} (normal : joined.Normal)
    (ok : inheritFragment origin joined = .ok url) : url.Normal := by
  rcases inheritFragment_cases ok with rfl | ok
  · exact normal
  · exact Url.ofParts_normal (p := { joined.parts with fragment := some origin.fragmentText })
      normal.scheme ok

theorem target_normal {url : Url} (ok : target origin headers = .ok url) : url.Normal := by
  obtain ⟨location, names⟩ := names_of_target ok
  obtain ⟨joined, join, inherited⟩ := (target_eq_ok_iff names).mp ok
  exact inheritFragment_normal (Url.join_normal join) inherited

end Redirect

end Courier
