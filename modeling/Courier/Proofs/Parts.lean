import Courier.Proofs.Spans
import Courier.Url.Reference

/-!
# The parts of a text

A text with an authority is read back as the parts it is put together from (`Parts.ofText_text`).
What comes after the first number sign is its fragment and has no say in any other part
(`Parts.ofText_fragment`).
-/

namespace Courier.Url

theorem splitAtLast_of_not_mem {c : Char} {cs : List Char} (clear : c ∉ cs) :
    splitAtLast c cs = (none, cs) := by
  simp [splitAtLast, clear]

theorem splitAtLast_append (c : Char) (before : List Char) {after : List Char} (clear : c ∉ after) :
    splitAtLast c (before ++ c :: after) = (some before, after) := by
  have passes : ∀ d ∈ after.reverse, decide (d ≠ c) = true :=
    passes_of_not_mem (by rwa [List.mem_reverse])
  have stops : ∀ d ∈ (c :: before.reverse).head?, decide (d ≠ c) = false := by simp
  have last : (before ++ c :: after).reverse.takeWhile (· ≠ c) = after.reverse := by
    rw [List.reverse_append, List.reverse_cons, List.append_assoc, List.singleton_append]
    exact (span_append_of_stops stops passes).1
  have length : (before ++ c :: after).length - after.length - 1 = before.length := by
    simp only [List.length_append, List.length_cons]
    omega
  have member : (before ++ c :: after).contains c = true := by simp
  simp only [splitAtLast, last, List.reverse_reverse, length, member, if_true, List.take_left]

/-- A text that has a character is split at the last one. -/
theorem splitAtLast_of_mem {c : Char} {cs : List Char} (member : c ∈ cs) :
    ∃ before after, cs = before ++ c :: after ∧ c ∉ after ∧
      splitAtLast c cs = (some before, after) := by
  obtain ⟨after, before, split, clear⟩ := List.eq_append_cons_of_mem (List.mem_reverse.mpr member)
  have split' : cs = before.reverse ++ c :: after.reverse := by
    rw [← List.reverse_reverse cs, split]
    simp
  have clear' : c ∉ after.reverse := by rwa [List.mem_reverse]
  exact ⟨before.reverse, after.reverse, split',
    clear', by rw [split', splitAtLast_append c _ clear']⟩

/-! ## Schemes -/

theorem not_mem_of_isSchemeName {name : List Char} (named : isSchemeName name = true) {c : Char}
    (foreign : c.isAlphanum = false) (other : c ≠ '+' ∧ c ≠ '-' ∧ c ≠ '.') : c ∉ name := by
  have alpha : c.isAlpha = false := by
    simp only [Char.isAlphanum, Bool.or_eq_false_iff] at foreign
    exact foreign.1
  cases name with
  | nil => simp
  | cons first rest =>
    simp only [isSchemeName, Bool.and_eq_true, List.all_eq_true, Bool.or_eq_true,
      beq_iff_eq] at named
    rw [List.mem_cons, not_or]
    constructor
    · rintro rfl
      simp [alpha] at named
    · intro member
      rcases named.2 c member with ((alnum | plus) | minus) | dot
      · simp [foreign] at alnum
      · exact other.1 plus
      · exact other.2.1 minus
      · exact other.2.2 dot

theorem splitScheme_of_colon {name : List Char} (clear : ':' ∉ name) (rest : List Char) :
    splitScheme (name ++ ':' :: rest) =
      if isSchemeName name then (name, rest) else ([], name ++ ':' :: rest) := by
  have stops : ∀ c ∈ (':' :: rest).head?, decide (c ≠ ':') = false := by simp
  obtain ⟨before, behind⟩ := span_append_of_stops stops (passes_of_not_mem clear)
  rw [splitScheme, before, behind]
  rfl

theorem splitScheme_of_not_mem {cs : List Char} (clear : ':' ∉ cs) : splitScheme cs = ([], cs) := by
  rw [splitScheme, List.dropWhile_eq_nil_iff.mpr (passes_of_not_mem clear)]

theorem splitScheme_suffix (cs : List Char) : (splitScheme cs).2 <:+ cs := by
  by_cases colon : ':' ∈ cs
  · obtain ⟨name, after, rfl, clear⟩ := List.eq_append_cons_of_mem colon
    rw [splitScheme_of_colon clear]
    split
    · exact (List.suffix_cons _ _).trans (List.suffix_append _ _)
    · exact List.suffix_refl _
  · simp [splitScheme_of_not_mem colon]

/-- A text that starts with a character that no scheme has does not start with a scheme. -/
theorem splitScheme_of_slash (rest : List Char) :
    splitScheme ('/' :: rest) = ([], '/' :: rest) := by
  by_cases colon : ':' ∈ '/' :: rest
  · obtain ⟨name, after, split, clear⟩ := List.eq_append_cons_of_mem colon
    rw [split, splitScheme_of_colon clear, if_neg]
    intro named
    cases name with
    | nil => cases split
    | cons c name =>
      obtain rfl : '/' = c := (List.cons.inj split).1
      exact not_mem_of_isSchemeName named rfl (by decide) List.mem_cons_self
  · exact splitScheme_of_not_mem colon

/-! ## Authorities -/

theorem eq_slashes_append {cs : List Char} (slashes : cs.take 2 = ['/', '/']) :
    ∃ rest, cs = '/' :: '/' :: rest :=
  ⟨cs.drop 2, by rw [← List.take_append_drop 2 cs, slashes]; rfl⟩

theorem splitAuthority_of_plain {cs : List Char} (plain : cs.take 2 ≠ ['/', '/']) :
    splitAuthority cs = ([], cs) := by
  unfold splitAuthority
  split
  · exact absurd rfl plain
  · rfl

theorem splitAuthority_suffix (cs : List Char) : (splitAuthority cs).2 <:+ cs := by
  unfold splitAuthority
  split
  · exact (List.dropWhile_suffix _).trans ((List.suffix_cons _ _).trans (List.suffix_cons _ _))
  · exact List.suffix_refl _

theorem splitAuthority_endsAuthority (cs : List Char) :
    ∀ c ∈ (splitAuthority cs).1, endsAuthority c = false := by
  unfold splitAuthority
  split
  · intro c member
    simpa using List.mem_takeWhile_imp member
  · simp

/-! ## Fragments -/

/-- What follows the scheme and the authority of a text. -/
def afterAuthority (cs : List Char) : List Char := (splitAuthority (splitScheme cs).2).2

theorem afterAuthority_suffix (cs : List Char) : afterAuthority cs <:+ cs :=
  (splitAuthority_suffix _).trans (splitScheme_suffix cs)

theorem splitQuery_clear (cs : List Char) : '#' ∉ (splitQuery cs).1.getD [] := by
  unfold splitQuery
  split
  · intro member
    simpa using List.mem_takeWhile_imp member
  · simp

theorem Parts.ofText_eq (cs : List Char) :
    Parts.ofText cs = {
      scheme := (splitScheme cs).1
      authority := (splitAuthority (splitScheme cs).2).1
      path := (afterAuthority cs).takeWhile (!endsPath ·)
      query := (splitQuery ((afterAuthority cs).dropWhile (!endsPath ·))).1
      fragment := readFragment (splitQuery ((afterAuthority cs).dropWhile (!endsPath ·))).2 } := rfl

/-- A component with the mark in front that says that it is there. -/
def marked (mark : Char) : Option (List Char) → List Char
  | none => []
  | some component => mark :: component

@[simp] theorem marked_none (mark : Char) : marked mark none = [] := rfl
@[simp] theorem marked_some (mark : Char) (cs : List Char) :
    marked mark (some cs) = mark :: cs := rfl

theorem marked_head {mark c : Char} {component : Option (List Char)}
    (first : c ∈ (marked mark component).head?) :
    c = mark := by
  cases component with
  | none => cases first
  | some cs => exact (Option.some.inj first).symm

/-- A component ends what comes before it where its mark does. -/
theorem marked_stops (p : Char → Bool) (mark : Char) (stop : p mark = false)
    (component : Option (List Char)) :
    ∀ c ∈ (marked mark component).head?, p c = false := by
  intro c first
  rwa [marked_head first]

section Fragments

variable {front : List Char} (clear : '#' ∉ front) (fragment : Option (List Char))

/-- What stands before a colon in a fragment is no scheme: a number sign comes before it. -/
theorem not_isSchemeName_of_fragment {name after : List Char} (colon : ':' ∉ front)
    (split : front ++ marked '#' fragment = name ++ ':' :: after) : isSchemeName name = false := by
  rw [← Bool.not_eq_true]
  intro named
  have absent : '#' ∉ name := not_mem_of_isSchemeName named rfl (by decide)
  have other : ∀ c ∈ (marked '#' fragment).head?, c ≠ ':' := by
    intro c first
    rw [marked_head first]
    decide
  rcases List.append_eq_append_iff.mp split with ⟨more, rfl, tail⟩ | ⟨more, rfl, tail⟩
  · cases more with
    | nil => exact other ':' (by rw [tail]; rfl) rfl
    | cons c more =>
      obtain rfl : c = '#' := marked_head (by rw [tail]; rfl)
      simp at absent
  · cases more with
    | nil =>
      rw [List.nil_append] at tail
      exact other ':' (by rw [← tail]; rfl) rfl
    | cons c more =>
      rw [List.cons_append] at tail
      obtain rfl : ':' = c := (List.cons.inj tail).1
      simp at colon

theorem splitScheme_fragment : splitScheme (front ++ marked '#' fragment) =
    ((splitScheme front).1, (splitScheme front).2 ++ marked '#' fragment) := by
  by_cases colon : ':' ∈ front
  · obtain ⟨name, after, split, apart⟩ := List.eq_append_cons_of_mem colon
    rw [split, List.append_assoc, List.cons_append, splitScheme_of_colon apart,
      splitScheme_of_colon apart]
    split <;> simp
  · rw [splitScheme_of_not_mem colon]
    by_cases later : ':' ∈ front ++ marked '#' fragment
    · obtain ⟨name, after, split, apart⟩ := List.eq_append_cons_of_mem later
      rw [split, splitScheme_of_colon apart, not_isSchemeName_of_fragment fragment colon split,
        if_neg (by simp)]
    · rw [splitScheme_of_not_mem later]

theorem splitAuthority_fragment : splitAuthority (front ++ marked '#' fragment) =
    ((splitAuthority front).1, (splitAuthority front).2 ++ marked '#' fragment) := by
  have stops := marked_stops (!endsAuthority ·) '#' rfl fragment
  by_cases slashes : front.take 2 = ['/', '/']
  · obtain ⟨rest, rfl⟩ := eq_slashes_append slashes
    simp only [List.cons_append, splitAuthority, takeWhile_append_of_stops stops,
      dropWhile_append_of_stops stops]
  · rw [splitAuthority_of_plain slashes, splitAuthority_of_plain]
    cases fragment with
    | none => rwa [marked_none, List.append_nil]
    | some cs =>
      match front, slashes with
      | [], _ => simp
      | [c], _ => simp
      | c :: d :: rest, plain => exact plain

include clear

theorem splitQuery_fragment (first : ∀ c ∈ front.head?, c = '?') :
    splitQuery (front ++ marked '#' fragment) = ((splitQuery front).1, marked '#' fragment) := by
  have stops := marked_stops (· ≠ '#') '#' rfl fragment
  cases front with
  | nil => cases fragment <;> rfl
  | cons c query =>
    obtain rfl : c = '?' := first c rfl
    have passes := passes_of_not_mem fun member => clear (List.mem_cons_of_mem _ member)
    obtain ⟨before, behind⟩ := span_append_of_stops stops passes
    simp only [List.cons_append, splitQuery, before, behind, List.takeWhile_eq_self_iff.mpr passes]

/-- A fragment has no say in the other parts. -/
theorem Parts.ofText_fragment :
    Parts.ofText (front ++ marked '#' fragment) = { Parts.ofText front with fragment } := by
  have stops := marked_stops (!endsPath ·) '#' rfl fragment
  let rest := (afterAuthority front).dropWhile (!endsPath ·)
  have clear' : '#' ∉ rest := fun member =>
    clear (((List.dropWhile_suffix _).trans (afterAuthority_suffix front)).mem member)
  have query : ∀ c ∈ rest.head?, c = '?' := by
    intro c first
    have ends := List.head?_dropWhile_not (!endsPath ·) (afterAuthority front)
    have mark : c ≠ '#' := fun same => clear' (same ▸ List.mem_of_mem_head? first)
    rw [Option.mem_def.mp first] at ends
    simpa [endsPath, mark] using ends
  have after : afterAuthority (front ++ marked '#' fragment) = afterAuthority front ++
    marked '#' fragment := by
    simp only [afterAuthority, splitScheme_fragment, splitAuthority_fragment]
  rw [ofText_eq, ofText_eq, after]
  simp only [splitScheme_fragment, splitAuthority_fragment, takeWhile_append_of_stops stops,
    dropWhile_append_of_stops stops]
  rw [splitQuery_fragment clear' fragment query]
  cases fragment <;> rfl

end Fragments

/-! ## Texts with an authority -/

namespace Parts

/-- The text of parts. -/
def text (p : Parts) : List Char :=
  (if p.scheme.isEmpty then [] else p.scheme ++ [':'])
    ++ (if p.authority.isEmpty then [] else '/' :: '/' :: p.authority)
    ++ p.path ++ marked '?' p.query ++ marked '#' p.fragment

/-- Parts with an authority, each of which ends where the next one begins. -/
structure Readable (p : Parts) : Prop where
  scheme : isSchemeName p.scheme = true
  located : p.authority ≠ []
  authority : ∀ c ∈ p.authority, endsAuthority c = false
  rooted : ∀ c ∈ p.path.head?, c = '/'
  path : ∀ c ∈ p.path, endsPath c = false
  query : '#' ∉ p.query.getD []

variable {p : Parts}

theorem splitScheme_text (named : isSchemeName p.scheme = true) (rest : List Char) :
    splitScheme ((if p.scheme.isEmpty then [] else p.scheme ++ [':']) ++ '/' :: rest) =
      (p.scheme, '/' :: rest) := by
  cases scheme : p.scheme with
  | nil => exact splitScheme_of_slash rest
  | cons c name =>
    rw [scheme] at named
    have clear : ':' ∉ c :: name := not_mem_of_isSchemeName named rfl (by decide)
    simp only [List.isEmpty_cons, Bool.false_eq_true, if_false, List.append_assoc,
      List.singleton_append]
    rw [splitScheme_of_colon clear, if_pos named]

/-- A path that is rooted, and a query, end the authority in front of them. -/
theorem Readable.endsAuthority (readable : p.Readable) :
    ∀ c ∈ (p.path ++ marked '?' p.query).head?, (!Url.endsAuthority c) = false := by
  intro c first
  cases path : p.path with
  | nil =>
    rw [path, List.nil_append] at first
    rw [marked_head first]
    rfl
  | cons d rest =>
    rw [path] at first
    obtain rfl : c = d := (Option.some.inj first).symm
    rw [readable.rooted c (by rw [path]; rfl)]
    rfl

theorem Readable.clear (readable : p.Readable) :
    '#' ∉ (if p.scheme.isEmpty then [] else p.scheme ++ [':']) ++ '/' :: '/' :: p.authority
      ++ (p.path ++ marked '?' p.query) := by
  have scheme : '#' ∉ p.scheme := not_mem_of_isSchemeName readable.scheme rfl (by decide)
  have authority : '#' ∉ p.authority := fun member => by cases readable.authority '#' member
  have path : '#' ∉ p.path := fun member => by cases readable.path '#' member
  have query : '#' ∉ marked '?' p.query := by
    have clear := readable.query
    cases given : p.query with
    | none => simp
    | some query => simpa [given] using clear
  split <;> simp [scheme, authority, path, query]

theorem splitQuery_marked {query : Option (List Char)} (clear : '#' ∉ query.getD []) :
    (splitQuery (marked '?' query)).1 = query := by
  cases query with
  | none => rfl
  | some cs =>
    rw [Option.getD_some] at clear
    rw [marked_some, splitQuery, List.takeWhile_eq_self_iff.mpr (passes_of_not_mem clear)]

/-- Readable parts are read back from their text. -/
theorem ofText_text (readable : p.Readable) : ofText p.text = p := by
  have text : p.text = (if p.scheme.isEmpty then [] else p.scheme ++ [':']) ++
    '/' :: '/' :: p.authority
      ++ (p.path ++ marked '?' p.query) ++ marked '#' p.fragment := by
    simp [Parts.text, readable.located]
  have stops := marked_stops (!endsPath ·) '?' rfl p.query
  obtain ⟨authority, after⟩ := span_append_of_stops readable.endsAuthority
    (fun c member => by rw [readable.authority c member]; rfl)
  obtain ⟨path, query⟩ := span_append_of_stops stops
    (fun c member => by rw [readable.path c member]; rfl)
  rw [text, ofText_fragment readable.clear, ofText_eq, afterAuthority, List.append_assoc,
    List.cons_append, splitScheme_text readable.scheme]
  simp only [List.cons_append, splitAuthority, authority, after, path, query,
    splitQuery_marked readable.query]

end Parts

end Courier.Url
