import Courier.Auth.Store
import Courier.Proofs.Cache
import Mathlib.Data.Int.ConditionallyCompleteOrder
import Mathlib.Data.List.MinMax
import Mathlib.Order.ConditionallyCompleteLattice.Indexed

/-!
# Which credentials a store finds

The scan of a store keeps the best entry so far, so it ends with the first entry of the greatest
score among those that do not conflict with the target (`bestMatch?_eq_argmax`). What it finds is
registered under a scope that fits the target (`fits_of_find?`), and a store with credentials for
every target finds some for each (`covers_of_any`).

No scope fits as well as the very scope of the target (`Scope.score_lt_of_ne`). So an entry for that
scope is what the scan would end with, and taking it at once changes nothing
(`find?_eq_bestMatch?`). Scopes that are ranked by their scores are therefore tried in this order
(`bestMatch?_eq_findSome?`).
-/

namespace Courier

section Argmax

variable {α β γ : Type} [LinearOrder γ]

theorem argmax_map (score : β → γ) (f : α → β) (items : List α) :
    (items.map f).argmax score = (items.argmax (score ∘ f)).map f := by
  induction items using List.reverseRecOn with
  | nil => rfl
  | append_singleton items item ih =>
    rw [List.map_append, List.map_singleton, List.argmax_concat, List.argmax_concat, ih]
    cases items.argmax (score ∘ f) with
    | none => rfl
    | some best =>
      simp only [Option.map_some, Function.comp_apply]
      by_cases higher : score (f best) < score (f item)
      · rw [if_pos higher, if_pos higher, Option.map_some]
      · rw [if_neg higher, if_neg higher, Option.map_some]

/-- An item whose score is above that of every other one is the first one of the greatest score. -/
theorem argmax_of_lt {score : α → γ} {items : List α} {best : α} (member : best ∈ items)
    (highest : ∀ item ∈ items, item ≠ best → score item < score best) :
    items.argmax score = some best := by
  cases found : items.argmax score with
  | none =>
    rw [List.argmax_eq_none.mp found] at member
    cases member
  | some item =>
    by_contra other
    have lower := highest item (List.argmax_mem found) fun same => other (congrArg some same)
    exact List.not_lt_of_mem_argmax member found lower

end Argmax

namespace Scope

/-- Two components conflict, or they count with their weight if they are the same and not at all
    otherwise. -/
theorem componentScore?_cases {α : Type} [DecidableEq α] (weight : Int) (own other : Option α) :
    componentScore? weight own other = none ∨
      componentScore? weight own other = some (if own = other then weight else 0) := by
  unfold componentScore?
  by_cases same : own = other
  · exact .inr (by rw [if_pos same, if_pos same])
  · rw [if_neg same, if_neg same]
    by_cases conflict : (own.isSome && other.isSome) = true
    · exact .inl (if_pos conflict)
    · exact .inr (if_neg conflict)

variable (target registered : Scope)

theorem score_cases :
    target.score registered = -1 ∨ target.score registered =
      (if target.port = registered.port then 4 else 0) +
        if target.host = registered.host then 8 else 0 := by
  unfold score
  rcases componentScore?_cases 4 target.port registered.port with ports | ports
  · exact .inl (by rw [ports])
  · rcases componentScore?_cases 8 target.host registered.host with hosts | hosts
    · exact .inl (by rw [ports, hosts])
    · exact .inr (by rw [ports, hosts])

theorem score_self : target.score target = 12 := by
  simp [score, componentScore?]

/-- No other scope fits a target as well as its own. -/
theorem score_lt_of_ne (apart : registered ≠ target) : target.score registered < 12 := by
  rcases target.score_cases registered with conflict | counted
  · omega
  · by_cases ports : target.port = registered.port
    · have hosts : target.host ≠ registered.host := by
        intro same
        exact apart (by rw [Scope.mk.injEq]; exact ⟨same.symm, ports.symm⟩)
      rw [counted, if_pos ports, if_neg hosts]
      omega
    · rw [counted, if_neg ports]
      split <;> omega

/-- A scope conflicts with the target or does not; there is no other score below zero. -/
theorem score_eq_or_nonneg : target.score registered = -1 ∨ 0 ≤ target.score registered := by
  rcases target.score_cases registered with conflict | counted
  · exact .inl conflict
  · right
    rw [counted]
    split <;> split <;> omega

/-- The scope of every target conflicts with none. -/
theorem score_any : 0 ≤ target.score .any := by
  simp only [score, any, componentScore?, Option.isSome_none, Bool.and_false]
  by_cases port : target.port = none <;> by_cases host : target.host = none <;> simp [port, host]

end Scope

/-- A registered scope that names nothing but the target: each component of it is open or the
    same. -/
def Scope.Fits (registered target : Scope) : Prop :=
  (registered.host = none ∨ registered.host = target.host) ∧
    (registered.port = none ∨ registered.port = target.port)

theorem Scope.fits_refl (s : Scope) : s.Fits s := ⟨.inr rfl, .inr rfl⟩

theorem Scope.open_or_eq_of_componentScore? {α : Type} [DecidableEq α] {weight score : Int}
    {own other : Option α} (given : own.isSome = true)
    (scored : componentScore? weight own other = some score) : other = none ∨ other = own := by
  unfold componentScore? at scored
  split at scored
  · rename_i same
    exact .inr same.symm
  · cases other with
    | none => exact .inl rfl
    | some other => simp [given] at scored

/-- A scope that does not conflict with a target that has a host and a port fits it. -/
theorem Scope.fits_of_score {target registered : Scope} (host : target.host.isSome = true)
    (port : target.port.isSome = true) (compatible : 0 ≤ target.score registered) :
    registered.Fits target := by
  unfold score at compatible
  split at compatible
  · rename_i ports hosts
    exact ⟨open_or_eq_of_componentScore? host hosts, open_or_eq_of_componentScore? port ports⟩
  · omega

namespace Scope

/-- The scopes that name nothing but a host and a port, the narrower ones first. -/
def widenings (host : String) (port : Int) : List Scope :=
  [.of (some host) (some port), .of (some host) none, .of none (some port), .any]

variable (host : String) (port : Int)

theorem widenings_scores :
    (widenings host port).map (score (.of (some host) (some port))) = [12, 8, 4, 0] := by
  simp [widenings, score, componentScore?, of, any]

theorem widenings_falls : (widenings host port).Pairwise fun first second =>
    score (.of (some host) (some port)) second < score (.of (some host) (some port)) first := by
  have falls : ([12, 8, 4, 0] : List Int).Pairwise fun first second => second < first := by decide
  rwa [← widenings_scores host port, List.pairwise_map] at falls

theorem mem_widenings_iff (scope : Scope) :
    scope ∈ widenings host port ↔ scope.Fits (.of (some host) (some port)) := by
  obtain ⟨host', port'⟩ := scope
  constructor
  · intro member
    simp only [widenings, of, any, List.mem_cons, Scope.mk.injEq, List.not_mem_nil,
      or_false] at member
    obtain ⟨rfl, rfl⟩ | ⟨rfl, rfl⟩ | ⟨rfl, rfl⟩ | ⟨rfl, rfl⟩ := member
    · exact ⟨.inr rfl, .inr rfl⟩
    · exact ⟨.inr rfl, .inl rfl⟩
    · exact ⟨.inl rfl, .inr rfl⟩
    · exact ⟨.inl rfl, .inl rfl⟩
  · rintro ⟨rfl | rfl, rfl | rfl⟩ <;> simp [widenings, of, any]

/-- They are the ones that do not conflict. -/
theorem nonneg_iff_mem_widenings (scope : Scope) :
    0 ≤ score (.of (some host) (some port)) scope ↔ scope ∈ widenings host port := by
  constructor
  · intro compatible
    exact (mem_widenings_iff host port scope).mpr (fits_of_score rfl rfl compatible)
  · intro member
    have scored := List.mem_map_of_mem (f := score (.of (some host) (some port))) member
    rw [widenings_scores] at scored
    have nonneg : ∀ given ∈ ([12, 8, 4, 0] : List Int), 0 ≤ given := by decide
    exact nonneg _ scored

end Scope

namespace CredentialStore

theorem lookup_value (s : CredentialStore) (target : Scope) :
    (s.lookup target).value = s.find? target := by
  unfold lookup
  cases s.find? target <;> rfl

/-! ## The scan -/

/-- The scan of entries ends with the first one of the greatest score that does not conflict. -/
theorem foldl_better (target : Scope) (entries : List (Scope × Credentials)) :
    entries.foldl (better target) none =
      ((entries.filter fun entry => 0 ≤ target.score entry.1).argmax fun entry =>
        target.score entry.1).map fun entry => (target.score entry.1, entry.2) := by
  induction entries using List.reverseRecOn with
  | nil => rfl
  | append_singleton entries entry ih =>
    rw [List.foldl_concat, ih, List.filter_append]
    by_cases fits : 0 ≤ target.score entry.1
    · rw [List.filter_cons_of_pos (by simpa using fits), List.filter_nil, List.argmax_concat]
      cases (entries.filter fun entry => 0 ≤ target.score entry.1).argmax
          fun entry => target.score entry.1 with
      | none =>
        have above : -1 < target.score entry.1 := by omega
        simp [better, above]
      | some best =>
        simp only [better, Option.map_some]
        by_cases higher : target.score best.1 < target.score entry.1
        · rw [if_pos higher, if_pos higher, Option.map_some]
        · rw [if_neg higher, if_neg higher, Option.map_some]
    · rw [List.filter_cons_of_neg (by simpa using fits), List.filter_nil, List.append_nil]
      cases found : (entries.filter fun entry => 0 ≤ target.score entry.1).argmax
          fun entry => target.score entry.1 with
      | none =>
        have below : ¬ -1 < target.score entry.1 := by omega
        simp [better, below]
      | some best =>
        have compatible := List.of_mem_filter (List.argmax_mem found)
        have below : ¬ target.score best.1 < target.score entry.1 := by
          simp only [decide_eq_true_eq] at compatible
          omega
        simp [better, below]

variable (s : CredentialStore) (target : Scope)

theorem bestMatch?_eq_argmax :
    s.bestMatch? target =
      ((s.entries.filter fun entry => 0 ≤ target.score entry.1).argmax fun entry =>
        target.score entry.1).map Prod.snd := by
  rw [bestMatch?, foldl_better, Option.map_map]
  rfl

variable {s target}

/-- What the scan finds is registered under a scope that does not conflict with the target. -/
theorem mem_of_bestMatch? {credentials : Credentials}
    (found : s.bestMatch? target = some credentials) :
    ∃ scope, (scope, credentials) ∈ s.entries ∧ 0 ≤ target.score scope := by
  rw [bestMatch?_eq_argmax, Option.map_eq_some_iff] at found
  obtain ⟨entry, best, rfl⟩ := found
  obtain ⟨member, fits⟩ := List.mem_filter.mp (List.argmax_mem best)
  exact ⟨entry.1, member, of_decide_eq_true fits⟩

/-- The scan finds nothing exactly if every registered scope conflicts with the target. -/
theorem bestMatch?_eq_none_iff :
    s.bestMatch? target = none ↔ ∀ entry ∈ s.entries, target.score entry.1 = -1 := by
  rw [bestMatch?_eq_argmax, Option.map_eq_none_iff, List.argmax_eq_none, List.filter_eq_nil_iff]
  constructor
  · intro conflict entry member
    rcases target.score_eq_or_nonneg entry.1 with below | fits
    · exact below
    · exact absurd (decide_eq_true fits) (conflict entry member)
  · intro conflict entry member
    rw [conflict entry member]
    decide

/-- A store in which every target finds credentials. -/
def Covers (s : CredentialStore) : Prop := ∀ target, (s.find? target).isSome

/-- Credentials registered for every target are found by each one. -/
theorem covers_of_any {credentials : Credentials} (h : (Scope.any, credentials) ∈ s.entries) :
    s.Covers := by
  intro target
  have best : s.bestMatch? target ≠ none := by
    intro none
    have conflict : target.score .any = -1 := bestMatch?_eq_none_iff.mp none _ h
    have fits := target.score_any
    omega
  unfold find?
  cases s.get? target with
  | none => simpa using Option.isSome_iff_ne_none.mpr best
  | some found => rfl

/-- The credentials that are found for a target are registered under a scope that fits it. -/
theorem fits_of_find? (host : target.host.isSome = true) (port : target.port.isSome = true)
    {credentials : Credentials} (found : s.find? target = some credentials) :
    ∃ scope, (scope, credentials) ∈ s.entries ∧ scope.Fits target := by
  unfold find? at found
  cases exact : s.get? target with
  | some registered =>
    simp only [exact, Option.orElse_eq_orElse, Option.orElse_eq_or, Option.some_or,
      Option.some.injEq] at found
    obtain ⟨before, after, entries, _⟩ := List.lookup_eq_some_iff.mp exact
    exact ⟨target, by simp [entries, found], target.fits_refl⟩
  | none =>
    simp only [exact, Option.orElse_eq_orElse, Option.orElse_eq_or, Option.none_or] at found
    obtain ⟨scope, member, compatible⟩ := mem_of_bestMatch? found
    exact ⟨scope, member, Scope.fits_of_score host port compatible⟩

/-! ## The scopes of a store -/

/-- The registered scopes, in the order in which they came in. -/
def scopes (s : CredentialStore) : List Scope := s.entries.map Prod.fst

theorem mem_scopes_iff {scope : Scope} : scope ∈ s.scopes ↔ s.get? scope ≠ none :=
  mem_keys_iff s.entries scope

/-- The scan ends with the first scope of the greatest score that does not conflict. -/
theorem bestMatch?_eq_bind (nodup : s.scopes.Nodup) (target : Scope) :
    s.bestMatch? target =
      ((s.scopes.filter fun scope => 0 ≤ target.score scope).argmax target.score).bind s.get? := by
  rw [bestMatch?_eq_argmax, scopes, List.filter_map, argmax_map]
  cases found : (s.entries.filter fun entry => 0 ≤ target.score entry.1).argmax
      fun entry => target.score entry.1 with
  | none =>
    simp only [Function.comp_def, found, Option.map_none, Option.bind_none]
  | some best =>
    have member := (List.mem_filter.mp (List.argmax_mem found)).1
    simp only [Function.comp_def, found, Option.map_some, Option.bind_some]
    exact (lookup_of_mem nodup member).symm

/-- A registered scope that fits a target better than every other one is where the scan ends. -/
theorem bestMatch?_of_best (nodup : s.scopes.Nodup) {scope : Scope} (member : scope ∈ s.scopes)
    (fits : 0 ≤ target.score scope)
    (best : ∀ other ∈ s.scopes, other ≠ scope → target.score other < target.score scope) :
    s.bestMatch? target = s.get? scope := by
  have candidate : scope ∈ s.scopes.filter fun scope => 0 ≤ target.score scope :=
    List.mem_filter.mpr ⟨member, decide_eq_true fits⟩
  rw [bestMatch?_eq_bind nodup, argmax_of_lt candidate fun other among =>
    best other (List.mem_filter.mp among).1]
  rfl

/-- Taking the entry for the very scope of a target at once gives what the scan would end with. -/
theorem find?_eq_bestMatch? (nodup : s.scopes.Nodup) (target : Scope) :
    s.find? target = s.bestMatch? target := by
  unfold find?
  cases exact : s.get? target with
  | none => rfl
  | some credentials =>
    have member : target ∈ s.scopes := by simp [mem_scopes_iff, exact]
    have scanned : s.bestMatch? target = s.get? target := by
      apply bestMatch?_of_best nodup member
      · rw [Scope.score_self]
        decide
      · intro other _ apart
        rw [Scope.score_self]
        exact target.score_lt_of_ne other apart
    rw [scanned, exact]
    rfl

/-- Where the scopes that do not conflict with a target are ranked by their scores, the first one of
    them that is registered counts. -/
theorem bestMatch?_eq_findSome? (nodup : s.scopes.Nodup) {ranked : List Scope}
    (falls : ranked.Pairwise fun first second => target.score second < target.score first)
    (all : ∀ scope, 0 ≤ target.score scope ↔ scope ∈ ranked) :
    s.bestMatch? target = ranked.findSome? s.get? := by
  cases first : ranked.findSome? s.get? with
  | none =>
    rw [List.findSome?_eq_none_iff] at first
    refine bestMatch?_eq_none_iff.mpr fun entry member => ?_
    have registered : s.get? entry.1 ≠ none := mem_scopes_iff.mp (List.mem_map_of_mem member)
    rcases target.score_eq_or_nonneg entry.1 with conflict | fits
    · exact conflict
    · exact absurd (first _ ((all _).mp fits)) registered
  | some credentials =>
    obtain ⟨before, scope, after, split, found, unregistered⟩ := List.findSome?_eq_some_iff.mp first
    have fits : 0 ≤ target.score scope := (all scope).mpr (by simp [split])
    rw [← found]
    apply bestMatch?_of_best nodup (mem_scopes_iff.mpr (by simp [found])) fits
    intro other registered apart
    rcases target.score_eq_or_nonneg other with conflict | fits'
    · omega
    · -- what stands before the scope is not registered, and what stands after it fits less well
      have among := (all other).mp fits'
      rw [split, List.mem_append, List.mem_cons] at among
      rw [split, List.pairwise_append, List.pairwise_cons] at falls
      rcases among with earlier | same | later
      · exact absurd (unregistered other earlier) (mem_scopes_iff.mp registered)
      · exact absurd same apart
      · exact falls.2.1.1 other later

/-! ## Registering -/

/-- Registering credentials for another scope keeps those of a scope. -/
theorem mem_set_of_ne {entry : Scope × Credentials} (h : entry ∈ s.entries)
    {scope : Scope} (ne : entry.1 ≠ scope) (credentials : Credentials) :
    entry ∈ (s.set scope credentials).entries := by
  unfold set
  split
  · exact List.mem_map.mpr ⟨entry, h, by simp [ne]⟩
  · exact List.mem_append_left _ h

variable (s) in
theorem get?_set (scope target : Scope) (credentials : Credentials) :
    (s.set scope credentials).get? target =
      if target = scope then some credentials else s.get? target := by
  unfold set get?
  rw [← lookup_set, any_eq_lookup_isSome, apply_ite CredentialStore.entries]

theorem mem_of_mem_set {scope : Scope} {credentials : Credentials} {entry : Scope × Credentials}
    (h : entry ∈ (s.set scope credentials).entries) :
    entry ∈ s.entries ∨ entry = (scope, credentials) := by
  unfold set at h
  split at h
  · obtain ⟨before, member, replaced⟩ := List.mem_map.mp h
    split at replaced
    · exact .inr replaced.symm
    · exact .inl (replaced ▸ member)
  · simpa using h

variable (s) in
/-- Registering credentials for a scope again keeps its place, and a new scope comes last. -/
theorem scopes_set (scope : Scope) (credentials : Credentials) :
    (s.set scope credentials).scopes = Scope.contact s.scopes scope := by
  unfold set scopes Scope.contact
  rw [← keys_set s.entries scope credentials, any_eq_lookup_isSome,
    apply_ite CredentialStore.entries]

end CredentialStore

end Courier
