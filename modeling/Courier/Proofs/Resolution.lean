import Courier.Proofs.References

/-!
# What references resolve to

A reference that is found at a URL has the scheme of the URL unless its text starts with one. If it
has the same scheme, and this one is resolved, it takes its missing parts from the URL; otherwise
its text stays as it is (`resolution`). So the fragment of what is joined is that of the reference
(`join_fragment`), that of the URL has no say in it (`join_congr`), and the host comes from the one
or the other, or gets lost (`join_host`).
-/

namespace Courier.Url

/-! ## Texts without their fragment -/

/-- The text of a URL in front of its fragment. -/
def front (u : Url) : List Char := ({ u with fragment := none } : Url).text

theorem text_eq_front (u : Url) : u.text = u.front ++ marked '#' u.fragment := by
  unfold front text
  cases u.fragment <;> simp [authority, hostPort, hostText]

theorem front_eq (u : Url) :
    u.front = (if u.scheme.isEmpty then [] else u.scheme ++ [':'])
      ++ (if u.authority.isEmpty then [] else '/' :: '/' :: u.authority) ++ u.path ++
        marked '?' u.query := by
  unfold front
  rw [text_eq, Parts.text]
  exact List.append_nil _

namespace Normal

variable {u : Url} (normal : u.Normal)

include normal

theorem clear : '#' ∉ u.front := by
  have scheme : '#' ∉ u.scheme := not_mem_of_isSchemeName normal.scheme rfl (by decide)
  have authority : '#' ∉ u.authority := fun member => by cases normal.endsAuthority '#' member
  have path : '#' ∉ u.path := fun member => by cases normal.endsPath '#' member
  have query : '#' ∉ marked '?' u.query := by
    have kept := not_mem_of_kept normal.query (c := '#') rfl
    cases given : u.query with
    | none => simp
    | some query => simpa [given] using kept
  rw [front_eq]
  split <;> split <;> simp [scheme, authority, path, query]

/-- Whatever the fragment is, it is what comes after the first number sign of the text. -/
theorem ofText_text_fragment (fragment : Option (List Char)) :
    Parts.ofText ({ u with fragment } : Url).text = { Parts.ofText u.front with fragment } := by
  rw [text_eq_front]
  exact Parts.ofText_fragment normal.clear fragment

theorem front_head : u.front.head? ≠ some ':' := by
  rw [front_eq]
  cases scheme : u.scheme with
  | cons c name =>
    have clear : ':' ∉ u.scheme := not_mem_of_isSchemeName normal.scheme rfl (by decide)
    rw [scheme, List.mem_cons, not_or] at clear
    simp [Ne.symm clear.1]
  | nil =>
    cases authority : u.authority with
    | cons c rest => simp
    | nil =>
      -- the path comes first, which does not start with a colon
      have settled := normalizePath_eq_ok_iff.mp normal.settled
      simp only [scheme, authority, List.isEmpty_nil, Bool.not_true, Bool.or_self,
        Bool.false_eq_true, if_false] at settled
      cases path : u.path with
      | nil => cases u.query <;> simp
      | cons c rest =>
        have bare := settled.2.1.2
        simpa [path, List.cons_prefix_cons, eq_comm] using bare

theorem text_head (fragment : Option (List Char)) :
    ({ u with fragment } : Url).text.head? ≠ some ':' := by
  rw [text_eq_front]
  change (u.front ++ marked '#' fragment).head? ≠ some ':'
  cases front : u.front with
  | nil =>
    intro first
    exact absurd (marked_head first) (by decide)
  | cons c cs =>
    rw [← front, List.head?_append_of_ne_nil _ (by simp [front])]
    exact normal.front_head

end Normal

/-! ## Resolving -/

/-- What a text resolves to at a URL that is this reference. -/
def resolution (b : Reference) (cs : List Char) : List Char :=
  let r := Reference.ofParts b.scheme (Parts.ofText cs)
  if r.scheme ≠ b.scheme ∨ !relativeSchemes.contains (String.ofList r.scheme) then cs
  else (r.against b).text

theorem resolveText_eq {base cs : List Char} (given : base ≠ []) (given' : cs ≠ [])
    (head : base.head? ≠ some ':') (head' : cs.head? ≠ some ':') :
    resolveText base cs = do
      checkLocation (Parts.ofText base).authority
      checkLocation (Parts.ofText cs).authority
      return resolution (Reference.ofParts [] (Parts.ofText base)) cs := by
  unfold resolveText resolution
  rw [if_neg (by simpa using given), if_neg (by simpa using given'), Reference.ofText_eq head]
  cases checkLocation (Parts.ofText base).authority with
  | error error => rfl
  | ok _ =>
    simp only [Except.map, bind, Except.bind, Reference.ofText_eq head']
    cases checkLocation (Parts.ofText cs).authority with
    | error error => rfl
    | ok _ =>
      simp only [pure, Except.pure]
      split <;> rfl

/-- The reference that a URL is as a base. -/
def base (u : Url) : Reference := Reference.ofParts [] (Parts.ofText u.text)

/-- A URL that is joined is read from the text of the one or the other, or from what the reference
    resolves to. -/
theorem join_cases {origin location joined : Url} (normal : origin.Normal)
    (normal' : location.Normal) (ok : origin.join location = .ok joined) :
    (location.text = [] ∧ parse origin.text = .ok joined) ∨
      (location.text ≠ [] ∧ origin.text = [] ∧ parse location.text = .ok joined) ∨
        (location.text ≠ [] ∧ origin.text ≠ [] ∧
          parse (resolution origin.base location.text) = .ok joined) := by
  unfold join at ok
  by_cases none : origin.text = []
  · have resolved : resolveText origin.text location.text = .ok location.text := by
      simp [resolveText, none]
    rw [resolved] at ok
    by_cases none' : location.text = []
    · refine .inl ⟨none', ?_⟩
      rw [none', ← none] at ok
      exact ok
    · exact .inr (.inl ⟨none', none, ok⟩)
  · by_cases none' : location.text = []
    · have resolved : resolveText origin.text location.text = .ok origin.text := by
        simp [resolveText, none, none']
      rw [resolved] at ok
      exact .inl ⟨none', ok⟩
    · rw [resolveText_eq none none' (normal.text_head _) (normal'.text_head _)] at ok
      obtain ⟨text, resolved, read⟩ := bind_eq_ok.mp ok
      obtain ⟨_, -, resolved⟩ := bind_eq_ok.mp (mapError_eq_ok.mp resolved)
      obtain ⟨_, -, resolved⟩ := bind_eq_ok.mp resolved
      cases resolved
      exact .inr (.inr ⟨none', none, read⟩)

theorem base_separate (u : Url) : u.base.Separate := Reference.ofParts_separate rfl u.text

/-! ## Fragments -/

theorem present?_getD (cs : List Char) : (Reference.present? cs).getD [] = cs := by
  unfold Reference.present?
  split
  · rename_i none
    exact (List.isEmpty_iff.mp none).symm
  · rfl

theorem resolution_fragment {b : Reference} (separate : b.Separate) (cs : List Char) :
    (Parts.ofText (resolution b cs)).fragment.getD [] = (Parts.ofText cs).fragment.getD [] := by
  unfold resolution
  simp only
  split
  · rfl
  · have read := (Reference.ofParts_separate separate.scheme cs).against separate
    rw [read.ofText_text_fragment, present?_getD, Reference.against_fragment]
    rfl

theorem parse_fragment {cs : List Char} {u : Url} (read : parse cs = .ok u)
    (kept : ∀ c ∈ (Parts.ofText cs).fragment.getD [], keepsInFragment c = true) :
    u.fragment.getD [] = (Parts.ofText cs).fragment.getD [] := by
  obtain ⟨host, port, path, -, -, -, rfl⟩ := assemble_eq_ok (parse_eq_ok read)
  cases given : (Parts.ofText cs).fragment with
  | none => rfl
  | some fragment =>
    rw [given] at kept
    exact Percent.encode_of_kept kept

/-- What is joined has the fragment of the reference, or, if its text is empty, that of the URL. -/
theorem join_fragment {origin location joined : Url} (normal : origin.Normal)
    (normal' : location.Normal) (ok : origin.join location = .ok joined) :
    joined.fragment.getD [] =
      if location.text = [] then origin.fragment.getD [] else location.fragment.getD [] := by
  have own : (Parts.ofText origin.text).fragment.getD [] = origin.fragment.getD [] :=
    congrArg (·.fragment.getD []) (normal.ofText_text_fragment origin.fragment)
  have own' : (Parts.ofText location.text).fragment.getD [] = location.fragment.getD [] :=
    congrArg (·.fragment.getD []) (normal'.ofText_text_fragment location.fragment)
  rcases join_cases normal normal' ok with ⟨none, read⟩ | ⟨given, -, read⟩ | ⟨given, -, read⟩
  · rw [if_pos none, ← own]
    exact parse_fragment read (own ▸ normal.fragment)
  · rw [if_neg given, ← own']
    exact parse_fragment read (own' ▸ normal'.fragment)
  · have resolved := (resolution_fragment origin.base_separate location.text).trans own'
    rw [if_neg given, ← resolved]
    exact parse_fragment read (resolved ▸ normal'.fragment)

theorem resolution_congr {b b' : Reference} (same : b' = { b with fragment := b'.fragment })
    (cs : List Char) :
    resolution b' cs = resolution b cs := by
  have against : ∀ r : Reference, r.against b' = r.against b := by
    intro r
    rw [same]
    rfl
  have scheme : b'.scheme = b.scheme := by rw [same]
  unfold resolution
  simp only [against, scheme]

/-- The fragment of a URL has no say in what a reference resolves to there, if there is any text of
    both. -/
theorem join_congr {u location : Url} (normal : u.Normal) (normal' : location.Normal)
    (other : location.text ≠ []) {f f' : Option (List Char)}
    (given : ({ u with fragment := f } : Url).text ≠ [])
    (given' : ({ u with fragment := f' } : Url).text ≠ []) :
    ({ u with fragment := f' } : Url).join location =
    ({ u with fragment := f } : Url).join location := by
  have parts : Parts.ofText ({ u with fragment := f' } : Url).text =
      { Parts.ofText ({ u with fragment := f } : Url).text with fragment := f' } := by
    rw [normal.ofText_text_fragment, normal.ofText_text_fragment]
  unfold join
  rw [resolveText_eq given other (normal.text_head f) (normal'.text_head _),
    resolveText_eq given' other (normal.text_head f') (normal'.text_head _), parts]
  simp only
  rw [resolution_congr (b :=
    Reference.ofParts [] (Parts.ofText ({ u with fragment := f } : Url).text)) rfl]

/-! ## Hosts -/

/-- Whether what a location resolves to has no host: what the text of the location names has none,
    and is a location of its own, or has another scheme or one that is not resolved. -/
structure LosesHost (origin location : Url) : Prop where
  given : location.text ≠ []
  hostless : (Authority.ofText (Parts.ofText location.text).authority).host = []
  apart : (Parts.ofText location.text).authority ≠ [] ∨
    ((Parts.ofText location.text).scheme ≠ [] ∧
      (Parts.ofText location.text).scheme.map Char.toLower ≠ origin.scheme) ∨
    relativeSchemes.contains (String.ofList origin.scheme) = false

theorem parse_host {cs : List Char} {u : Url} (read : parse cs = .ok u) :
    u.host = [] ↔ (Authority.ofText (Parts.ofText cs).authority).host = [] := by
  obtain ⟨host, port, path, normalized, -, -, rfl⟩ := assemble_eq_ok (parse_eq_ok read)
  exact Host.normalize_eq_nil Host.areForms_noForm normalized

/-- A text stays as it is where a URL with this scheme cannot be its base. -/
theorem apart_iff (scheme : List Char) (p : Parts) :
    ((Reference.ofParts scheme p).scheme ≠ scheme ∨
        (!relativeSchemes.contains (String.ofList (Reference.ofParts scheme p).scheme)) = true) ↔
      (p.scheme ≠ [] ∧ p.scheme.map Char.toLower ≠ scheme) ∨
        relativeSchemes.contains (String.ofList scheme) = false := by
  rw [Bool.not_eq_true']
  unfold Reference.ofParts
  cases own : p.scheme with
  | nil => simp
  | cons c rest =>
    by_cases same : (c :: rest).map Char.toLower = scheme
    · simp [same]
    · simp only [List.isEmpty_cons, Bool.false_eq_true, if_false]
      exact iff_of_true (.inl same) (.inl ⟨List.cons_ne_nil _ _, same⟩)

/-- A reference that takes its missing parts from a base with a location has one, its own or that of
    the base. -/
theorem authority_against {r b : Reference} (separate : r.Separate) (separate' : b.Separate)
    (located : b.location ≠ []) :
    (Parts.ofText (r.against b).text).authority =
    if r.location = [] then b.location else r.location := by
  have location := Reference.against_location r b
  simp only [List.isEmpty_iff] at location
  have some : (r.against b).location ≠ [] := by
    rw [location]
    split
    · exact located
    · assumption
  rw [(separate.against separate').ofText_text some]
  exact location

/-- What a text resolves to at a base with a host has none exactly if the text names none, and it
    has a location of its own or stays as it is. -/
theorem resolution_host {b : Reference} (separate : b.Separate) (located : b.location ≠ [])
    (named : (Authority.ofText b.location).host ≠ []) (cs : List Char) :
    (Authority.ofText (Parts.ofText (resolution b cs)).authority).host = [] ↔
      (Authority.ofText (Parts.ofText cs).authority).host = [] ∧
        ((Parts.ofText cs).authority ≠ [] ∨
          ((Parts.ofText cs).scheme ≠ [] ∧ (Parts.ofText cs).scheme.map Char.toLower ≠ b.scheme) ∨
          relativeSchemes.contains (String.ofList b.scheme) = false) := by
  have apart := apart_iff b.scheme (Parts.ofText cs)
  unfold resolution
  simp only
  split
  · rename_i elsewhere
    exact ⟨fun hostless => ⟨hostless, .inr (apart.mp elsewhere)⟩, And.left⟩
  · rename_i here
    rw [apart] at here
    have location : (Reference.ofParts b.scheme (Parts.ofText cs)).location =
      (Parts.ofText cs).authority := rfl
    rw [authority_against (Reference.ofParts_separate separate.scheme cs) separate located,
      location]
    split
    · rename_i none
      exact iff_of_false named fun loses => loses.2.elim (fun some => some none) here
    · rename_i some
      exact ⟨fun hostless => ⟨hostless, .inl some⟩, And.left⟩

theorem Normal.base_eq {u : Url} (normal : u.Normal) (located : u.authority ≠ []) :
    u.base.location = u.authority ∧ u.base.scheme = u.scheme := by
  unfold base
  rw [normal.ofText_text located]
  refine ⟨rfl, ?_⟩
  unfold Reference.ofParts parts
  simp only
  split
  · rename_i none
    exact (List.isEmpty_iff.mp none).symm
  · exact normal.lower

/-- A location found at a URL with a host is joined to one without exactly if it loses the host. -/
theorem join_host {origin location joined : Url} (normal : origin.Normal)
    (normal' : location.Normal) (named : origin.host ≠ [])
    (ok : origin.join location = .ok joined) :
    joined.host = [] ↔ LosesHost origin location := by
  have located : origin.authority ≠ [] := by
    intro none
    have empty := authority_isEmpty origin
    simp [none, named] at empty
  have own : (Authority.ofText origin.authority).host ≠ [] := by
    rw [normal.ofText_authority]
    exact fun none => named (Host.text_eq_nil_iff.mp none)
  have parts : Parts.ofText origin.text = origin.parts := normal.ofText_text located
  rcases join_cases normal normal' ok with ⟨none, read⟩ | ⟨-, none, -⟩ | ⟨given, -, read⟩
  · rw [parse_host read, parts]
    exact iff_of_false own fun loses => loses.given none
  · rw [none] at parts
    exact absurd (congrArg Parts.authority parts).symm located
  · obtain ⟨location', scheme⟩ := normal.base_eq located
    rw [← location'] at located own
    rw [parse_host read, resolution_host origin.base_separate located own, scheme]
    exact ⟨fun ⟨hostless, apart⟩ => ⟨given, hostless, apart⟩, fun loses =>
      ⟨loses.hostless, loses.apart⟩⟩

end Courier.Url
