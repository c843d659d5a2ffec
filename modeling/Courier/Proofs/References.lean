import Courier.Proofs.NormalForm

/-!
# References by their parts

A reference is split into the same parts as any text, with another scheme by default
(`Reference.ofText_eq`). Its components end where they do in a text (`Reference.Separate`), also
once the ones that it lacks are taken from a base: following segments brings no characters in but
slashes. So its own text is that of parts which are read back from it (`Separate.readable`), and its
fragment is what comes after the first number sign (`Separate.ofText_text_fragment`).
-/

namespace Courier.Url

theorem splitScheme_of_none {cs : List Char} (colon : cs.head? ≠ some ':')
    (none : (splitScheme cs).1 = []) :
    (splitScheme cs).2 = cs := by
  by_cases member : ':' ∈ cs
  · obtain ⟨name, after, rfl, clear⟩ := List.eq_append_cons_of_mem member
    rw [splitScheme_of_colon clear] at none ⊢
    split at none
    · cases none
      simp at colon
    · rename_i unnamed
      rw [if_neg unnamed]
  · rw [splitScheme_of_not_mem member]

/-! ## Reading and writing references -/

theorem splitParameters_forall (P : Char → Prop) {path : List Char} (slash : P '/')
    (all : ∀ c ∈ path, P c) :
    (∀ c ∈ (splitParameters path).1, P c) ∧ ∀ c ∈ (splitParameters path).2, P c := by
  unfold splitParameters
  have segment : ∀ last : List Char, (∀ c ∈ last, P c) →
      (∀ c ∈ last.takeWhile (· ≠ ';'), P c) ∧ ∀ c ∈ (last.dropWhile (· ≠ ';')).drop 1, P c := by
    intro last all
    exact ⟨fun c member => all c ((List.takeWhile_prefix _).mem member),
      fun c member => all c ((List.dropWhile_suffix _).mem (List.mem_of_mem_drop member))⟩
  by_cases member : '/' ∈ path
  · obtain ⟨before, last, rfl, -, split⟩ := splitAtLast_of_mem member
    simp only [split, List.forall_mem_append, List.forall_mem_cons] at all ⊢
    have own := segment last all.2.2
    exact ⟨⟨all.1, slash, own.1⟩, own.2⟩
  · rw [splitAtLast_of_not_mem member]
    exact segment path all

/-- The path without its parameters, and these, if paths of a scheme carry any. -/
def splitPath (scheme path : List Char) : List Char × List Char :=
  if parameterSchemes.contains (String.ofList scheme) then splitParameters path else (path, [])

theorem splitPath_forall (P : Char → Prop) {scheme path : List Char} (slash : P '/')
    (all : ∀ c ∈ path, P c) :
    (∀ c ∈ (splitPath scheme path).1, P c) ∧ ∀ c ∈ (splitPath scheme path).2, P c := by
  unfold splitPath
  split
  · exact splitParameters_forall P slash all
  · exact ⟨all, by simp⟩

namespace Reference

/-- A reference by its parts; `default` is the scheme of one without a scheme. -/
def ofParts (default : List Char) (p : Parts) : Reference :=
  let scheme := if p.scheme.isEmpty then default else p.scheme.map Char.toLower
  { scheme, location := p.authority, path := (splitPath scheme p.path).1
    parameters := (splitPath scheme p.path).2, query := p.query.getD [], fragment :=
      p.fragment.getD [] }

theorem ofText_eq {cs : List Char} (colon : cs.head? ≠ some ':') (default : List Char) :
    ofText default cs =
      (checkLocation (Parts.ofText cs).authority).map fun _ =>
        ofParts default (Parts.ofText cs) := by
  have scheme : splitReferenceScheme default cs =
      ((ofParts default (Parts.ofText cs)).scheme, (splitScheme cs).2) := by
    unfold splitReferenceScheme
    rw [Parts.ofText_eq]
    have none := splitScheme_of_none colon
    generalize splitScheme cs = parts at none ⊢
    obtain ⟨scheme, rest⟩ := parts
    cases scheme with
    | nil => simp [ofParts, ← none rfl]
    | cons c name => rfl
  unfold ofText split
  rw [scheme]
  simp only [Parts.ofText_eq]
  cases checkLocation (splitAuthority (splitScheme cs).2).1 with
  | error error => rfl
  | ok _ =>
    simp only [ofParts, splitPath, Except.map, bind, Except.bind, pure, Except.pure]
    generalize (if (splitScheme cs).1.isEmpty then default else _) = scheme'
    cases parameterSchemes.contains (String.ofList scheme') <;> rfl

/-- The path of a reference with its parameters. -/
def fullPath (r : Reference) : List Char :=
  if r.parameters.isEmpty then r.path else r.path ++ ';' :: r.parameters

/-- A component that is there if it is not empty. -/
def present? (cs : List Char) : Option (List Char) := if cs.isEmpty then none else some cs

theorem marked_present? (mark : Char) (cs : List Char) :
    marked mark (present? cs) = if cs.isEmpty then [] else mark :: cs := by
  unfold present?
  split <;> rfl

/-- The parts of a reference with a location. -/
def parts (r : Reference) : Parts where
  scheme := r.scheme
  authority := r.location
  path :=
    if r.fullPath.isEmpty || r.fullPath.head? == some '/' then r.fullPath else '/' :: r.fullPath
  query := present? r.query
  fragment := present? r.fragment

theorem text_eq {r : Reference} (located : r.location ≠ []) : r.text = r.parts.text := by
  have present : r.location.isEmpty = false := by simpa using located
  unfold text Parts.text
  simp only [parts, marked_present?, present, Bool.not_false, Bool.true_or, if_true,
    Bool.false_eq_true, if_false]
  change (if r.scheme.isEmpty then '/' :: '/' :: r.location ++ r.parts.path
    else r.scheme ++ ':' :: ('/' :: '/' :: r.location ++ r.parts.path)) ++ _ ++ _ = _
  split <;> simp [parts, *]

section Against

variable (r b : Reference)

@[simp] theorem against_scheme : (r.against b).scheme = r.scheme := by
  unfold against
  split
  · rfl
  · split <;> rfl

@[simp] theorem against_fragment : (r.against b).fragment = r.fragment := by
  unfold against
  split
  · rfl
  · split <;> rfl

theorem against_location :
    (r.against b).location = if r.location.isEmpty then b.location else r.location := by
  unfold against
  cases r.location.isEmpty with
  | false => rfl
  | true =>
    simp only [Bool.not_true, Bool.false_eq_true, if_false, if_true, apply_ite location, ite_self]

end Against

/-- A reference each of whose components ends where it does in a text. -/
structure Separate (r : Reference) : Prop where
  scheme : isSchemeName r.scheme = true
  location : ∀ c ∈ r.location, endsAuthority c = false
  path : ∀ c ∈ r.path, endsPath c = false
  parameters : ∀ c ∈ r.parameters, endsPath c = false
  query : '#' ∉ r.query

theorem ofParts_separate {default : List Char} (named : isSchemeName default = true)
    (cs : List Char) :
    (ofParts default (Parts.ofText cs)).Separate := by
  have path : ∀ c ∈ (Parts.ofText cs).path, endsPath c = false := by
    intro c member
    simpa using List.mem_takeWhile_imp member
  refine ⟨?_, ?_, (splitPath_forall (endsPath · = false) rfl path).1,
    (splitPath_forall (endsPath · = false) rfl path).2, splitQuery_clear _⟩
  · unfold ofParts
    simp only
    split
    · exact named
    · exact isSchemeName_toLower (isSchemeName_splitScheme cs)
  · exact splitAuthority_endsAuthority _

namespace Separate

variable {r b : Reference}

theorem against (separate : r.Separate) (separate' : b.Separate) : (r.against b).Separate := by
  have location : ∀ c ∈ (r.against b).location, endsAuthority c = false := by
    rw [against_location]
    split
    · exact separate'.location
    · exact separate.location
  have scheme : isSchemeName (r.against b).scheme = true := by
    rw [against_scheme]
    exact separate.scheme
  unfold Reference.against at location scheme ⊢
  split
  · exact separate
  · rename_i lacking
    rw [if_neg lacking] at location scheme
    split
    · rename_i pathless
      rw [if_pos pathless] at location scheme
      refine ⟨scheme, location, separate'.path, separate'.parameters, ?_⟩
      simp only
      split
      · exact separate'.query
      · exact separate.query
    · rename_i pathful
      rw [if_neg pathful] at location scheme
      refine ⟨scheme, location, ?_, separate.parameters, separate.query⟩
      apply followSegments_forall (endsPath · = false) rfl
      split
      · exact splitOn_forall _ separate.path
      · exact mergeSegments_forall _ separate'.path separate.path

theorem fullPath (separate : r.Separate) : ∀ c ∈ r.fullPath, endsPath c = false := by
  unfold Reference.fullPath
  split
  · exact separate.path
  · simp only [List.forall_mem_append, List.forall_mem_cons]
    exact ⟨separate.path, rfl, separate.parameters⟩

/-- The parts of a reference with a location are read back from its text. -/
theorem readable (separate : r.Separate) (located : r.location ≠ []) : r.parts.Readable := by
  have path := separate.fullPath
  refine ⟨separate.scheme, located, separate.location, ?_, ?_, ?_⟩
  · intro c first
    unfold parts at first
    simp only at first
    split at first
    · rename_i rooted
      simp only [Option.mem_def.mp first, beq_iff_eq, Option.some.injEq, Bool.or_eq_true] at rooted
      rcases rooted with none | slash
      · rw [List.isEmpty_iff.mp none] at first
        cases first
      · exact slash
    · simpa using first.symm
  · unfold parts
    simp only
    split
    · exact path
    · rw [List.forall_mem_cons]
      exact ⟨rfl, path⟩
  · have query := separate.query
    unfold parts present?
    simp only
    split
    · simp
    · exact query

theorem ofText_text (separate : r.Separate) (located : r.location ≠ []) :
    Parts.ofText r.text = r.parts := by
  rw [text_eq located, Parts.ofText_text (separate.readable located)]

/-- There is no number sign in the text of a reference in front of its fragment. -/
theorem clear (separate : r.Separate) : '#' ∉ ({ r with fragment := [] } : Reference).text := by
  have scheme : ∀ c ∈ r.scheme, c ≠ '#' := by
    rintro c member rfl
    exact not_mem_of_isSchemeName separate.scheme rfl (by decide) member
  have location : ∀ c ∈ r.location, c ≠ '#' := by
    rintro c member rfl
    cases separate.location '#' member
  have path : ∀ c ∈ r.fullPath, c ≠ '#' := by
    rintro c member rfl
    cases separate.fullPath '#' member
  have query : ∀ c ∈ r.query, c ≠ '#' := by
    rintro c member rfl
    exact separate.query member
  have rest : ∀ c ∈ (if !r.location.isEmpty ||
    (!r.scheme.isEmpty && r.fullPath.take 2 != ['/', '/']) then
      let path :=
        if r.fullPath.isEmpty || r.fullPath.head? == some '/' then r.fullPath else '/' :: r.fullPath
      '/' :: '/' :: r.location ++ path else r.fullPath), c ≠ '#' := by
    split
    · simp only [List.cons_append, List.forall_mem_cons, List.forall_mem_append]
      refine ⟨by decide, by decide, location, ?_⟩
      split
      · exact path
      · rw [List.forall_mem_cons]
        exact ⟨by decide, path⟩
    · exact path
  suffices all : ∀ c ∈ ({ r with fragment := [] } : Reference).text, c ≠ '#' from fun member =>
    all '#' member rfl
  unfold text
  simp only [List.isEmpty_nil, if_true, List.append_nil, List.forall_mem_append]
  refine ⟨?_, ?_⟩
  · split
    · exact rest
    · rw [List.forall_mem_append, List.forall_mem_cons]
      exact ⟨scheme, by decide, rest⟩
  · split
    · simp
    · rw [List.forall_mem_cons]
      exact ⟨by decide, query⟩

/-- The fragment of a reference is read back from its text. -/
theorem ofText_text_fragment (separate : r.Separate) :
    (Parts.ofText r.text).fragment = present? r.fragment := by
  have text : r.text = ({ r with fragment := [] } : Reference).text ++
    marked '#' (present? r.fragment) := by
    unfold Reference.text
    rw [marked_present?]
    simp
  rw [text, Parts.ofText_fragment separate.clear]

end Separate

end Reference

end Courier.Url
