import Courier.Auth.Cache

/-!
# What the cache holds for a host

Every operation on the cache is told by what `AuthCache.get?` gives after it: the state that was set
for its own host, and what was there before for every other one. The hosts that have a state are
listed by `AuthCache.hosts`, each once.
-/

namespace Courier

section Entries

variable {α β : Type} [DecidableEq α] (entries : List (α × β)) (key other : α)

theorem lookup_cons_ite (entry : α × β) :
    (entry :: entries).lookup key = if key = entry.1 then some entry.2 else entries.lookup key := by
  rw [List.lookup_cons]
  by_cases same : key = entry.1
  · simp [same]
  · simp [same, beq_eq_false_iff_ne.mpr same]

/-- Replacing the value of a key where it stands gives that value for the key, if it is there, and
    nothing else for another one. -/
theorem lookup_replace (value : β) :
    (entries.map fun entry => if entry.1 == key then (key, value) else entry).lookup other =
      if other = key then (entries.lookup key).map fun _ => value else entries.lookup other := by
  induction entries with
  | nil => simp
  | cons entry rest ih =>
    rw [List.map_cons, lookup_cons_ite, ih, lookup_cons_ite, lookup_cons_ite]
    by_cases here : entry.1 = key
    · by_cases same : other = key <;> simp [here, same]
    · by_cases same : other = key
      · simp [here, Ne.symm here, same]
      · simp [here, same]

theorem any_eq_lookup_isSome : entries.any (·.1 == key) = (entries.lookup key).isSome := by
  rw [Bool.eq_iff_iff, List.lookup_isSome_iff]
  simp [eq_comm (a := key)]

/-- Setting the value of a key, where it stands or at the end, gives that value for the key and
    nothing else for another one. -/
theorem lookup_set (value : β) :
    (if (entries.lookup key).isSome then
        entries.map fun entry => if entry.1 == key then (key, value) else entry
      else entries ++ [(key, value)]).lookup other =
      if other = key then some value else entries.lookup other := by
  cases found : entries.lookup key with
  | some present => simp only [Option.isSome_some, if_true, lookup_replace, found, Option.map_some]
  | none =>
    simp only [Option.isSome_none, Bool.false_eq_true, if_false, List.lookup_append,
      lookup_cons_ite, List.lookup_nil]
    by_cases same : other = key
    · simp [same, found]
    · simp [same]

/-- Leaving keys out gives nothing for them and nothing else for the other ones. -/
theorem lookup_filter (keep : α → Bool) :
    (entries.filter fun entry => keep entry.1).lookup key =
    if keep key then entries.lookup key else none := by
  induction entries with
  | nil => simp
  | cons entry rest ih =>
    rw [lookup_cons_ite, List.filter_cons]
    by_cases kept : keep entry.1 = true
    · rw [if_pos kept, lookup_cons_ite, ih]
      by_cases here : key = entry.1
      · rw [if_pos here, if_pos here, here, if_pos kept]
      · rw [if_neg here, if_neg here]
    · rw [if_neg kept, ih]
      by_cases here : key = entry.1
      · rw [here, if_neg kept, if_neg kept]
      · rw [if_neg here]

theorem lookup_filter_ne :
    (entries.filter (·.1 != key)).lookup other =
    if other = key then none else entries.lookup other := by
  rw [lookup_filter entries other (· != key)]
  by_cases same : other = key <;> simp [same]

theorem lookup_map {γ : Type} (f : β → γ) :
    (entries.map fun entry => (entry.1, f entry.2)).lookup key = (entries.lookup key).map f := by
  induction entries with
  | nil => rfl
  | cons entry rest ih =>
    rw [List.map_cons, lookup_cons_ite, lookup_cons_ite, ih]
    by_cases here : key = entry.1
    · rw [if_pos here, if_pos here, Option.map_some]
    · rw [if_neg here, if_neg here]

/-- A key is there exactly if it has a value. -/
theorem mem_keys_iff : key ∈ entries.map Prod.fst ↔ entries.lookup key ≠ none := by
  rw [← Option.isSome_iff_ne_none, List.lookup_isSome_iff]
  simp [eq_comm (a := key)]

/-- Setting the value of a key keeps the keys in their order, with this one at the end if it is
    new. -/
theorem keys_set (value : β) :
    (if (entries.lookup key).isSome then
        entries.map fun entry => if entry.1 == key then (key, value) else entry
      else entries ++ [(key, value)]).map Prod.fst =
      if key ∈ entries.map Prod.fst then entries.map Prod.fst else entries.map Prod.fst ++
        [key] := by
  have names : (Prod.fst ∘ fun entry : α × β => if entry.1 == key then (key, value) else entry) =
      Prod.fst := by
    funext entry
    by_cases same : entry.1 = key <;> simp [same]
  by_cases present : key ∈ entries.map Prod.fst
  · have found := Option.isSome_iff_ne_none.mpr ((mem_keys_iff entries key).mp present)
    rw [if_pos found, if_pos present, List.map_map, names]
  · have missing : ¬ (entries.lookup key).isSome = true := by
      rwa [Option.isSome_iff_ne_none, ← mem_keys_iff]
    rw [if_neg missing, if_neg present, List.map_append]
    rfl

variable {entries} in
/-- Where no key stands twice, every entry is the one that is found for its key. -/
theorem lookup_of_mem (nodup : (entries.map Prod.fst).Nodup) {entry : α × β}
    (member : entry ∈ entries) :
    entries.lookup entry.1 = some entry.2 := by
  obtain ⟨before, after, split⟩ := List.append_of_mem member
  refine List.lookup_eq_some_iff.mpr ⟨before, after, split, ?_⟩
  intro other earlier
  rw [split, List.map_append, List.nodup_append] at nodup
  have apart := nodup.2.2 other.1 (List.mem_map_of_mem earlier) entry.1 (by simp)
  exact bne_iff_ne.mpr apart.symm

variable {entries} in
/-- Where no key stands twice, it does not matter from which end a key is looked for. -/
theorem lookup_reverse_of_nodup (nodup : (entries.map Prod.fst).Nodup) :
    entries.reverse.lookup key = entries.lookup key := by
  induction entries with
  | nil => rfl
  | cons entry rest ih =>
    rw [List.map_cons, List.nodup_cons] at nodup
    rw [List.reverse_cons, List.lookup_append, ih nodup.2, lookup_cons_ite, lookup_cons_ite,
      List.lookup_nil]
    by_cases here : key = entry.1
    · have absent : rest.lookup key = none := by
        rw [here]
        exact Classical.not_not.mp fun present => nodup.1 ((mem_keys_iff rest _).mpr present)
      rw [absent, if_pos here, Option.none_or]
    · rw [if_neg here, if_neg here, Option.or_none]

variable {entries} in
/-- Entries with the same keys in one order, none of them twice, are the same if they give the same
    for each. -/
theorem eq_of_lookup {others : List (α × β)} (keys : entries.map Prod.fst = others.map Prod.fst)
    (nodup : (entries.map Prod.fst).Nodup)
    (same : ∀ key ∈ entries.map Prod.fst, entries.lookup key = others.lookup key) :
    entries = others := by
  induction entries generalizing others with
  | nil => exact (List.map_eq_nil_iff.mp keys.symm).symm
  | cons entry rest ih =>
    cases others with
    | nil => cases keys
    | cons other others =>
      rw [List.map_cons, List.map_cons, List.cons.injEq] at keys
      rw [List.map_cons, List.nodup_cons] at nodup
      have first := same entry.1 List.mem_cons_self
      rw [lookup_cons_ite, lookup_cons_ite, if_pos rfl, if_pos keys.1, Option.some.injEq] at first
      have later : rest = others := by
        apply ih keys.2 nodup.2
        intro key member
        have apart : key ≠ entry.1 := fun equal => nodup.1 (equal ▸ member)
        have here := same key (List.mem_cons_of_mem _ member)
        rwa [lookup_cons_ite, lookup_cons_ite, if_neg apart, if_neg (keys.1 ▸ apart)] at here
      rw [later, Prod.ext keys.1 first]

end Entries

theorem eraseDups_concat {α : Type} [DecidableEq α] (items : List α) (item : α) :
    (items ++ [item]).eraseDups =
      if item ∈ items.eraseDups then items.eraseDups else items.eraseDups ++ [item] := by
  rw [List.eraseDups_append, List.removeAll]
  by_cases present : item ∈ items.eraseDups
  · have member := List.mem_eraseDups.mp present
    rw [if_pos present, List.filter_cons_of_neg (by simpa using member)]
    simp
  · have absent := fun member => present (List.mem_eraseDups.mpr member)
    rw [if_neg present, List.filter_cons_of_pos (by simpa using absent)]
    simp [List.eraseDups_cons]

theorem eraseDups_nodup {α : Type} [DecidableEq α] (items : List α) : items.eraseDups.Nodup := by
  rw [← items.reverse_reverse]
  induction items.reverse with
  | nil => exact List.nodup_nil
  | cons item rest ih =>
    rw [List.reverse_cons, eraseDups_concat]
    split
    · exact ih
    · rename_i absent
      rw [List.nodup_append]
      refine ⟨ih, by simp, ?_⟩
      rintro other member _ last rfl
      exact absent (List.mem_singleton.mp last ▸ member)

/-- What has no element twice stays as it is. -/
theorem eraseDups_of_nodup {α : Type} [DecidableEq α] {items : List α} (nodup : items.Nodup) :
    items.eraseDups = items := by
  induction items with
  | nil => rfl
  | cons item rest ih =>
    rw [List.nodup_cons] at nodup
    have others : rest.filter (fun other => !other == item) = rest := by
      rw [List.filter_eq_self]
      intro other member
      rw [Bool.not_eq_true', beq_eq_false_iff_ne]
      rintro rfl
      exact nodup.1 member
    rw [List.eraseDups_cons, others, ih nodup.2]

namespace AuthCache

variable (c : AuthCache) (host other : Scope) (state : AuthState)

theorem get?_set :
    (c.set host state).get? other = if other = host then some state else c.get? other := by
  unfold set contains get?
  rw [← lookup_set, apply_ite AuthCache.entries]

theorem get?_remove : (c.remove host).get? other = if other = host then none else c.get? other :=
  lookup_filter_ne c.entries host other

/-- Committing a state gives the one that the host has already, or else this one. -/
theorem commit_state : (c.commit host state).value.2 = (c.get? host).getD state := by
  unfold commit
  cases c.get? host <;> rfl

/-- The state that is given is the one that the host has from then on. -/
theorem get?_commit : (c.commit host state).value.1.get? other =
    if other = host then some ((c.get? host).getD state) else c.get? other := by
  unfold commit
  cases present : c.get? host with
  | none => exact c.get?_set host other state
  | some current =>
    by_cases same : other = host
    · rw [if_pos same, same]
      exact present
    · rw [if_neg same]

end AuthCache

/-! ## The hosts -/

/-- The hosts that have a state, in the order in which they came in. -/
def AuthCache.hosts (c : AuthCache) : List Scope := c.entries.map Prod.fst

/-- Hosts with one more at the end, unless it is among them. -/
def Scope.contact (hosts : List Scope) (host : Scope) : List Scope :=
  if host ∈ hosts then hosts else hosts ++ [host]

namespace Scope

theorem mem_contact (hosts : List Scope) (host other : Scope) :
    other ∈ contact hosts host ↔ other ∈ hosts ∨ other = host := by
  unfold contact
  split
  · rename_i present
    constructor
    · exact .inl
    · rintro (before | rfl)
      · exact before
      · exact present
  · simp

theorem contact_nodup {hosts : List Scope} (nodup : hosts.Nodup) (host : Scope) :
    (contact hosts host).Nodup := by
  unfold contact
  split
  · exact nodup
  · rename_i absent
    refine List.nodup_append.mpr ⟨nodup, by simp, ?_⟩
    intro other member last here same
    rw [List.mem_singleton.mp here] at same
    exact absent (same ▸ member)

end Scope

theorem AuthCache.mem_hosts_iff (c : AuthCache) (host : Scope) :
    host ∈ c.hosts ↔ c.get? host ≠ none :=
  mem_keys_iff c.entries host

theorem AuthCache.hosts_set (c : AuthCache) (host : Scope) (state : AuthState) :
    (c.set host state).hosts = Scope.contact c.hosts host := by
  unfold set contains get? hosts Scope.contact
  rw [← keys_set, apply_ite AuthCache.entries]

theorem AuthCache.hosts_commit (c : AuthCache) (host : Scope) (state : AuthState) :
    (c.commit host state).value.1.hosts = Scope.contact c.hosts host := by
  unfold commit
  cases present : c.get? host with
  | none => exact c.hosts_set host state
  | some current =>
    have member : host ∈ c.hosts := by simp [mem_hosts_iff, present]
    exact (if_pos member).symm

end Courier
