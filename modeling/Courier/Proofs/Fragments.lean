import Courier.Proofs.Octets
import Courier.Proofs.Start
import Courier.Proofs.Targets

/-!
# Whether redirects hand the fragment on

A redirect whose location has no fragment is to lead to a URL with the fragment of the request, and
the fragment is to have no say in the rest of the target (`Redirect.Inherits`). The fragment is
handed on decoded and is encoded again, so it arrives as it was if it is what its own text is
encoded as (`Url.Returns`); and putting it in puts the target together again, which changes nothing
but the fragment if the target is stable (`Url.Stable`). Over a chain of redirects the promise is
kept exactly if both hold wherever they are needed (`Redirect.keepsFragment_iff`).
-/

namespace Courier

namespace Url

/-! ## Putting a fragment in -/

/-- Whether a fragment is what a text is written as that has no escape of its own and can be given
    as a fragment: it is not too long, and has no control character. -/
def Returns (fragment : List Char) : Prop :=
  ∃ text, Percent.encode keepsInFragment text = fragment ∧ Percent.hasEscape text = false ∧
    checkComponent .fragment text = .ok ()

theorem lt_of_isHexDigit {c : Char} (hex : Text.isHexDigit c = true) : c.toNat < 128 := by
  have code : c.toNat = c.val.toNat := rfl
  have digit : '9'.val.toNat = 57 := rfl
  have upper : 'F'.val.toNat = 70 := rfl
  have lower : 'f'.val.toNat = 102 := rfl
  unfold Text.isHexDigit Text.hexValue? at hex
  simp only [Char.le_def, UInt32.le_iff_toNat_le] at hex
  split at hex
  · omega
  · split at hex
    · omega
    · split at hex
      · omega
      · cases hex

theorem keepsInFragment_of_isHexDigit (c : Char) (hex : Text.isHexDigit c = true) :
    keepsInFragment c = true := by
  have low := lt_of_isHexDigit hex
  revert hex
  apply of_ascii (P := fun c => Text.isHexDigit c = true → keepsInFragment c = true) ?_ low
  decide +kernel

/-- A fragment that is given decoded is written as it was exactly if it returns. -/
theorem returns_iff (fragment : List Char) :
    Returns fragment ↔ checkComponent .fragment (Percent.decode fragment) = .ok () ∧
      Percent.encode keepsInFragment (Percent.decode fragment) = fragment := by
  have back := Percent.decode_encode_iff keeps_keepsInFragment keepsInFragment_of_isHexDigit
  constructor
  · rintro ⟨text, rfl, plain, checked⟩
    rw [(back text).mpr plain]
    exact ⟨checked, rfl⟩
  · rintro ⟨checked, written⟩
    exact ⟨Percent.decode fragment, written, (back _).mp (by rw [written]), checked⟩

/-- Whether the components of a URL, but for its fragment, can be given on their own. -/
def Fits (u : Url) : Prop := ({ u.parts with fragment := none } : Parts).check = .ok ()

/-- Whether a URL is put together from its parts as it is: a name is in lower case, and the port is
    not the default one. -/
def Stable (u : Url) : Prop := Host.lowered u.host = u.host ∧ Port.beside u.scheme u.port = u.port

theorem check_fragment (p : Parts) (fragment : List Char) :
    ({ p with fragment := some fragment } : Parts).check = .ok () ↔
      ({ p with fragment := none } : Parts).check = .ok
      () ∧ checkComponent .fragment fragment = .ok () := by
  have empty : checkComponent .fragment [] = .ok () := rfl
  unfold Parts.check
  simp only [bind_eq_ok, Option.getD_some, Option.getD_none, empty]
  simp [and_assoc]

/-- A URL takes a fragment in if its components and the fragment can be given on their own. -/
theorem withFragment_iff {u url : Url} (normal : u.Normal) (genuine : Host.IsGenuine u.host)
    {fragment : List Char} :
    u.withFragment fragment = .ok url ↔
      (u.Fits ∧ checkComponent .fragment fragment = .ok ()) ∧ url = u.refragmented fragment := by
  rw [withFragment_eq_ok_iff normal genuine, check_fragment]
  rfl

theorem stable_iff {u : Url} (fragment : List Char) :
    u.Stable ↔ u.refragmented fragment =
      { u with fragment := (u.refragmented fragment).fragment } := by
  unfold Stable refragmented
  simp only [Url.mk.injEq, true_and, and_true]

theorem assemble_congr {asciiForm? : List Char → Option (List Char)} {p : Parts} {a : Authority}
    {f f' : Option (List Char)} {u u' : Url}
    (assembled : assemble asciiForm? { p with fragment := f } a = .ok u)
    (assembled' : assemble asciiForm? { p with fragment := f' } a = .ok u') :
    u' = { u with fragment := u'.fragment } := by
  obtain ⟨host, port, path, named, numbered, settled, rfl⟩ := assemble_eq_ok assembled
  obtain ⟨host', port', path', named', numbered', settled', rfl⟩ := assemble_eq_ok assembled'
  obtain rfl := Except.ok.inj (named.symm.trans named')
  obtain rfl := Except.ok.inj (numbered.symm.trans numbered')
  obtain rfl := Except.ok.inj (settled.symm.trans settled')
  rfl

/-- The fragment of a text has no say in the rest of the URL that is read. -/
theorem parse_congr {u v v' : Url} (normal : u.Normal) {f f' : Option (List Char)}
    (read : parse ({ u with fragment := f } : Url).text = .ok v)
    (read' : parse ({ u with fragment := f' } : Url).text = .ok v') :
    v' = { v with fragment := v'.fragment } := by
  have assembled := parse_eq_ok read
  have assembled' := parse_eq_ok read'
  rw [normal.ofText_text_fragment] at assembled assembled'
  exact assemble_congr assembled assembled'

theorem join_of_nil {origin location : Url} (none : location.text = []) :
    origin.join location = parse origin.text := by
  have resolved : resolveText origin.text location.text = .ok origin.text := by
    by_cases none' : origin.text = [] <;> simp [resolveText, none, none']
  unfold join
  rw [resolved]
  rfl

theorem fragment_of_text_eq_nil {u : Url} (none : u.text = []) : u.fragment.getD [] = [] := by
  rw [text_eq_front, List.append_eq_nil_iff] at none
  cases given : u.fragment with
  | none => rfl
  | some fragment => simp [given] at none

end Url

namespace Redirect

variable {origin location joined : Url} {headers : Http.Headers}

/-- The fragment of the request is put in where it has one and what is joined has none. -/
theorem inheritFragment_iff (normal : joined.Normal) (genuine : Url.Host.IsGenuine joined.host)
    {url : Url} :
    inheritFragment origin joined = .ok url ↔
      if origin.fragment.getD [] ≠ [] ∧ joined.fragment.getD [] = [] then
        (joined.Fits ∧ Url.checkComponent .fragment origin.fragmentText = .ok ()) ∧
          url = joined.refragmented origin.fragmentText
      else url = joined := by
  have given : (!origin.fragmentText.isEmpty && joined.fragmentText.isEmpty) = true ↔
      origin.fragment.getD [] ≠ [] ∧ joined.fragment.getD [] = [] := by
    simp [Url.fragmentText]
  unfold inheritFragment
  simp only [given]
  split
  · exact Url.withFragment_iff normal genuine
  · rw [Except.ok.injEq, eq_comm]

/-- What is joined stays as it is where it has a fragment or there is none to put in. -/
theorem inheritFragment_of_own (own : origin.fragment.getD [] = [] ∨ joined.fragment.getD [] ≠ []) :
    inheritFragment origin joined = .ok joined := by
  unfold inheritFragment
  rw [if_neg]
  rcases own with none | own <;> simp [Url.fragmentText, *]

/-- What is read from the text of a request URL has its fragment already. -/
theorem inheritFragment_of_parse (normal : origin.Normal) {f : Option (List Char)}
    (read : Url.parse ({ origin with fragment := f } : Url).text = .ok joined) :
    inheritFragment { origin with fragment := f } joined = .ok joined := by
  apply inheritFragment_of_own
  have assembled := Url.parse_eq_ok read
  rw [normal.ofText_text_fragment] at assembled
  obtain ⟨host, port, path, -, -, -, rfl⟩ := Url.assemble_eq_ok assembled
  cases f with
  | none => exact .inl rfl
  | some fragment =>
    by_cases none : fragment = []
    · exact .inl none
    · exact .inr (by simpa using none)

/-- Putting a fragment in changes nothing else of a stable URL. -/
theorem inheritFragment_same (normal : joined.Normal) (genuine : Url.Host.IsGenuine joined.host)
    (stable : joined.Fits → joined.Stable) {url : Url}
    (ok : inheritFragment origin joined = .ok url) :
    url = { joined with fragment := url.fragment } := by
  rw [inheritFragment_iff normal genuine] at ok
  split at ok
  · obtain ⟨⟨fits, -⟩, rfl⟩ := ok
    exact (Url.stable_iff _).mp (stable fits)
  · rw [ok]

section

variable [Codecs]

/-- What a redirect is to do with the fragment of a request. -/
structure Inherits (origin : Url) (headers : Http.Headers) : Prop where
  /-- There is a target. It has the fragment of the location or, where this one has none, that of
      the request. -/
  fragment : ∃ location url, Names headers location ∧ target origin headers = .ok url ∧
    url.fragment.getD [] =
      if location.fragment.getD [] = [] then origin.fragment.getD [] else location.fragment.getD []
  /-- A request for a URL that differs in the fragment alone has a target that differs in nothing
      else. That is not asked of the URL without any text, which names no server to send to: as a
      base it leaves a location as it is, while a URL that is nothing but a fragment makes the
      location a reference to itself. -/
  elsewhere : ∀ f url url', origin.text ≠ [] → ({ origin with fragment := f } : Url).text ≠ [] →
    target origin headers = .ok url → target { origin with fragment := f } headers = .ok url' →
      url' = { url with fragment := url'.fragment }

/-- Whether a location that is found at a URL can be joined. Where it needs a fragment, what is
    joined takes in the one of the request as it is, and does not change otherwise when it takes one
    in. -/
structure Passes (origin location joined : Url) : Prop where
  join : origin.join location = .ok joined
  stable : location.text ≠ [] → location.fragment.getD [] = [] → origin.text ≠ [] →
    joined.Fits → joined.Stable
  returns : location.text ≠ [] → location.fragment.getD [] = [] → origin.fragment.getD [] ≠ [] →
    joined.Fits ∧ Url.Returns (origin.fragment.getD [])

/-- Whether the fragment of a request comes through a redirect as it is. -/
def Transmits (origin : Url) (headers : Http.Headers) : Prop :=
  ∃ location joined, Names headers location ∧ Passes origin location joined

section Hop

variable (normal : origin.Normal) (names : Names headers location)

include normal names

theorem fragment_of_passes (passes : Passes origin location joined) :
    ∃ url, target origin headers = .ok url ∧
      url.fragment.getD [] =
        if location.fragment.getD [] = [] then origin.fragment.getD
          [] else location.fragment.getD [] := by
  have fragment := Url.join_fragment normal names.normal passes.join
  have keep : (origin.fragment.getD [] = [] ∨ joined.fragment.getD [] ≠ []) →
    target origin headers = .ok joined :=
    fun own => (target_eq_ok_iff names).mpr ⟨joined, passes.join, inheritFragment_of_own own⟩
  by_cases none : location.text = []
  · rw [if_pos none] at fragment
    rw [if_pos (Url.fragment_of_text_eq_nil none), ← fragment]
    refine ⟨joined, keep ?_, rfl⟩
    rw [fragment]
    exact Classical.em _
  · rw [if_neg none] at fragment
    by_cases bare : location.fragment.getD [] = []
    · rw [if_pos bare]
      rw [bare] at fragment
      by_cases absent : origin.fragment.getD [] = []
      · exact ⟨joined, keep (.inl absent), by rw [fragment, absent]⟩
      · obtain ⟨fits, returns⟩ := passes.returns none bare absent
        obtain ⟨checked, written⟩ := (Url.returns_iff _).mp returns
        refine ⟨joined.refragmented origin.fragmentText, ?_, written⟩
        refine (target_eq_ok_iff names).mpr ⟨joined, passes.join, ?_⟩
        rw [inheritFragment_iff (Url.join_normal passes.join) (Url.join_genuine passes.join),
          if_pos ⟨absent, fragment⟩]
        exact ⟨⟨fits, checked⟩, rfl⟩
    · rw [if_neg bare]
      exact ⟨joined, keep (.inr (by rwa [fragment])), fragment⟩

theorem elsewhere_of_passes (passes : Passes origin location joined) {f : Option (List Char)}
    {url url' : Url} (given : origin.text ≠ [])
    (given' : ({ origin with fragment := f } : Url).text ≠ [])
    (ok : target origin headers = .ok url)
    (ok' : target { origin with fragment := f } headers = .ok url') :
    url' = { url with fragment := url'.fragment } := by
  have join := passes.join
  obtain ⟨same, join', inherited⟩ := (target_eq_ok_iff names).mp ok
  obtain rfl := Except.ok.inj (join.symm.trans join')
  obtain ⟨joined', join', inherited'⟩ := (target_eq_ok_iff names).mp ok'
  by_cases none : location.text = []
  · -- both targets are read from the texts of the two requests
    rw [Url.join_of_nil none] at join join'
    obtain rfl := Except.ok.inj ((inheritFragment_of_parse normal join).symm.trans inherited)
    obtain rfl := Except.ok.inj ((inheritFragment_of_parse normal join').symm.trans inherited')
    exact Url.parse_congr normal join join'
  · rw [Url.join_congr normal names.normal none given given'] at join'
    obtain rfl := Except.ok.inj (join.symm.trans join')
    by_cases bare : location.fragment.getD [] = []
    · have stable := passes.stable none bare given
      rw [inheritFragment_same (Url.join_normal join) (Url.join_genuine join) stable inherited,
        inheritFragment_same (Url.join_normal join) (Url.join_genuine join) stable inherited']
    · have fragment := Url.join_fragment normal names.normal join
      rw [if_neg none] at fragment
      have own : joined.fragment.getD [] ≠ [] := by rwa [fragment]
      obtain rfl := Except.ok.inj ((inheritFragment_of_own (.inr own)).symm.trans inherited)
      obtain rfl := Except.ok.inj ((inheritFragment_of_own (.inr own)).symm.trans inherited')
      rfl

section Converse

variable (inherits : Inherits origin headers) (join : origin.join location = .ok joined)
  (other : location.text ≠ [])

include inherits join other

/-- What is joined does not change otherwise with the fragment it takes in. -/
theorem elsewhere_of_inherits (given : origin.text ≠ []) {url : Url}
    (ok : target origin headers = .ok url) (f : Option (List Char)) (url' : Url)
    (given' : ({ origin with fragment := f } : Url).text ≠ [])
    (inherited : inheritFragment { origin with fragment := f } joined = .ok url') :
    url' = { url with fragment := url'.fragment } := by
  apply inherits.elsewhere f url url' given given' ok
  refine (target_eq_ok_iff names).mpr ⟨joined, ?_, inherited⟩
  rw [Url.join_congr normal names.normal other given given', join]

variable (bare : location.fragment.getD [] = [])

include bare

theorem stable_of_inherits (given : origin.text ≠ []) (fits : joined.Fits) : joined.Stable := by
  obtain ⟨_, url, -, ok, -⟩ := inherits.fragment
  obtain ⟨_, join', inherited⟩ := (target_eq_ok_iff names).mp ok
  obtain rfl := Except.ok.inj (join.symm.trans join')
  have normal' := Url.join_normal join
  have genuine' := Url.join_genuine join
  have fragment := Url.join_fragment normal names.normal join
  rw [if_neg other, bare] at fragment
  have elsewhere := elsewhere_of_inherits normal names inherits join other given ok
  -- the target of a request with a fragment is compared with that of one without
  by_cases absent : origin.fragment.getD [] = []
  · obtain rfl := Except.ok.inj ((inheritFragment_of_own (.inl absent)).symm.trans inherited)
    let text := Percent.decode ['x']
    refine (Url.stable_iff text).mpr (elsewhere (some ['x']) _ ?_ ?_)
    · rw [Url.text_eq_front]
      simp
    · rw [inheritFragment_iff normal' genuine', if_pos ⟨by simp, fragment⟩]
      exact ⟨⟨fits, rfl⟩, rfl⟩
  · rw [inheritFragment_iff normal' genuine', if_pos ⟨absent, fragment⟩] at inherited
    have same :=
      elsewhere (some []) _ (by rw [Url.text_eq_front]; simp) (inheritFragment_of_own (.inl rfl))
    rw [inherited.2] at same
    exact ⟨(congrArg Url.host same).symm, (congrArg Url.port same).symm⟩

theorem returns_of_inherits (some : origin.fragment.getD [] ≠ []) :
    joined.Fits ∧ Url.Returns (origin.fragment.getD []) := by
  obtain ⟨_, url, names', ok, arrives⟩ := inherits.fragment
  obtain rfl := names.unique names'
  obtain ⟨_, join', inherited⟩ := (target_eq_ok_iff names).mp ok
  obtain rfl := Except.ok.inj (join.symm.trans join')
  have fragment := Url.join_fragment normal names.normal join
  rw [if_neg other, bare] at fragment
  rw [inheritFragment_iff (Url.join_normal join) (Url.join_genuine join),
    if_pos ⟨some, fragment⟩] at inherited
  obtain ⟨⟨fits, checked⟩, rfl⟩ := inherited
  rw [if_pos bare] at arrives
  exact ⟨fits, (Url.returns_iff _).mpr ⟨checked, arrives⟩⟩

end Converse

theorem passes_of_inherits (inherits : Inherits origin headers) :
    ∃ joined, Passes origin location joined := by
  obtain ⟨_, url, -, ok, -⟩ := inherits.fragment
  obtain ⟨joined, join, -⟩ := (target_eq_ok_iff names).mp ok
  exact ⟨joined, join, stable_of_inherits normal names inherits join,
    returns_of_inherits normal names inherits join⟩

end Hop

/-- A redirect does with the fragment what it is to do exactly if the fragment comes through it. -/
theorem inherits_iff (normal : origin.Normal) :
    Inherits origin headers ↔ Transmits origin headers := by
  constructor
  · intro inherits
    obtain ⟨location, url, names, -⟩ := inherits.fragment
    obtain ⟨joined, passes⟩ := passes_of_inherits normal names inherits
    exact ⟨location, joined, names, passes⟩
  · rintro ⟨location, joined, names, passes⟩
    obtain ⟨url, ok, arrives⟩ := fragment_of_passes normal names passes
    exact ⟨⟨location, url, names, ok, arrives⟩,
      fun f url url' given given' ok ok' =>
        elsewhere_of_passes normal names passes given given' ok ok'⟩

/-! ## Chains of redirects -/

/-- What holds of every redirect of a chain, at the URL that the ones before lead to. -/
def Along (P : Url → Http.Headers → Prop) : Url → List Http.Headers → Prop
  | _, [] => True
  | origin, headers :: rest =>
    P origin headers ∧ ∀ url, target origin headers = .ok url → Along P url rest

theorem along_iff {P Q : Url → Http.Headers → Prop}
    (same : ∀ origin headers, origin.Normal → (P origin headers ↔ Q origin headers))
    {chain : List Http.Headers}
    {origin : Url} (normal : origin.Normal) : Along P origin chain ↔ Along Q origin chain := by
  induction chain generalizing origin with
  | nil => exact Iff.rfl
  | cons headers rest ih =>
    unfold Along
    rw [same origin headers normal]
    exact and_congr_right fun _ => forall_congr' fun url => imp_congr_right fun ok =>
      ih (target_normal ok)

/-- What a chain of redirects is to do with the fragment of a request. -/
structure KeepsFragment (origin : Url) (chain : List Http.Headers) : Prop where
  hops : Along Inherits origin chain
  /-- A chain without fragments leads to a URL with the fragment of the request. -/
  final : (∀ headers ∈ chain, ∀ location, Names headers location → location.fragment.getD [] = []) →
    ∃ url, chain.foldlM target origin = .ok url ∧ url.fragment.getD [] = origin.fragment.getD []

/-- A chain without fragments whose redirects hand the fragment on hands it on as a whole. -/
theorem final_of_hops {chain : List Http.Headers} {origin : Url}
    (hops : Along Inherits origin chain)
    (bare : ∀ headers ∈ chain, ∀ location, Names headers location →
      location.fragment.getD [] = []) :
    ∃ url, chain.foldlM target origin = .ok url ∧
      url.fragment.getD [] = origin.fragment.getD [] := by
  induction chain generalizing origin with
  | nil => exact ⟨origin, rfl, rfl⟩
  | cons headers rest ih =>
    rw [List.forall_mem_cons] at bare
    obtain ⟨location, next, names, ok, arrives⟩ := hops.1.fragment
    rw [if_pos (bare.1 location names)] at arrives
    obtain ⟨url, arrived, last⟩ := ih (hops.2 next ok) bare.2
    refine ⟨url, ?_, last.trans arrives⟩
    rw [List.foldlM_cons, ok]
    exact arrived

/-- A chain of redirects does with the fragment what it is to do exactly if the fragment comes
    through every redirect of it. -/
theorem keepsFragment_iff {origin : Url} (normal : origin.Normal) (chain : List Http.Headers) :
    KeepsFragment origin chain ↔ Along Transmits origin chain := by
  rw [← along_iff (fun origin headers normal => inherits_iff normal) normal]
  exact ⟨KeepsFragment.hops, fun hops => ⟨hops, final_of_hops hops⟩⟩

end

attribute [local instance] Codecs.plain

/-- Header fields with this location and nothing else. -/
def toLocation (location : String) : Http.Headers :=
  ⟨[⟨Http.FieldName.location, Utf8.ofString location⟩]⟩

/-- A URL on a host, with this path and fragment. -/
def onHost (path fragment : String) : Url :=
  ⟨"https".toList, [], ['h'], none, path.toList, none, some fragment.toList⟩

/-- A fragment with an escaped space is handed on. -/
theorem keepsFragment_space :
    (onHost "/a" "x%20y").Normal ∧ KeepsFragment (onHost "/a" "x%20y") [toLocation "/b"] := by
  have read : Url.parse "https://h/a#x%20y".toList = .ok (onHost "/a" "x%20y") := by decide +kernel
  have normal := Url.parse_normal read
  have names : Names (toLocation "/b") ⟨[], [], [], none, "/b".toList, none, none⟩ :=
    ⟨"/b".toList, by decide +kernel, by decide +kernel⟩
  have returns : Url.Returns "x%20y".toList := ⟨"x y".toList, by decide, by decide, by decide⟩
  have passes : Passes (onHost "/a" "x%20y") ⟨[], [], [], none, "/b".toList, none, none⟩
      { onHost "/b" "" with fragment := none } :=
    ⟨by decide +kernel, fun _ _ _ _ => ⟨by decide, by decide⟩, fun _ _ _ =>
      ⟨by unfold Url.Fits; decide +kernel, returns⟩⟩
  exact ⟨normal, (keepsFragment_iff normal _).mpr ⟨⟨_, _, names, passes⟩, fun _ _ => trivial⟩⟩

/-- A fragment with an escaped percent sign arrives without the escape. -/
theorem escapedPercent_lost :
    Url.parse "https://h/a#100%25".toList = .ok (onHost "/a" "100%25") ∧
      Names (toLocation "/b") ⟨[], [], [], none, "/b".toList, none, none⟩ ∧
        target (onHost "/a" "100%25") (toLocation "/b") = .ok (onHost "/b" "100%") ∧
          ¬ KeepsFragment (onHost "/a" "100%25") [toLocation "/b"] := by
  have names : Names (toLocation "/b") ⟨[], [], [], none, "/b".toList, none, none⟩ :=
    ⟨"/b".toList, by decide +kernel, by decide +kernel⟩
  have arrives : target (onHost "/a" "100%25") (toLocation "/b") = .ok (onHost "/b" "100%") := by
    decide +kernel
  refine ⟨by decide +kernel, names, arrives, fun keeps => ?_⟩
  obtain ⟨location, url, names', ok, fragment⟩ := keeps.hops.1.fragment
  obtain rfl := names.unique names'
  obtain rfl := Except.ok.inj (arrives.symm.trans ok)
  exact absurd fragment (by decide)

end Redirect

end Courier
