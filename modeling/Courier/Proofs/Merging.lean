import Courier.Config.Lineage
import Courier.Proofs.Start

/-!
# Merging settings

Settings and overrides are read by one name for each setting (`Config.value?`, `Overrides.value?`),
and they are nothing more than what is read (`Config.eq_of_value?`). In these terms merging is a
right-biased choice, setting by setting, with the limits checked at the end. So merges that follow
each other make what one merge makes with the overrides taken together, whatever the limits say on
the way, and nothing that is held changes (`merge_law`).
-/

namespace Courier

namespace Config

/-- The names of the settings. -/
inductive Setting where
  | username
  | password
  | timeout
  | proxy
  | maxRetries
  | retryInterval
  | maxRedirects
  deriving DecidableEq, Repr

/-- What a setting is set to. -/
inductive Value where
  | text (text : RawText)
  | number (number : Number)
  | proxy (proxy : ProxyConfig)
  deriving DecidableEq, Repr

/-- The value of a setting, if it has one. -/
def value? (c : Config) : Setting → Option Value
  | .username => c.username.map .text
  | .password => c.password.map .text
  | .timeout => some (.number c.timeout)
  | .proxy => c.proxy.map .proxy
  | .maxRetries => some (.number c.maxRetries)
  | .retryInterval => some (.number c.retryInterval)
  | .maxRedirects => some (.number c.maxRedirects)

/-- The override of a setting, if there is one. -/
def Overrides.value? (o : Overrides) : Setting → Option Value
  | .username => o.username.map .text
  | .password => o.password.map .text
  | .timeout => o.timeout.map .number
  | .proxy => o.proxy.map .proxy
  | .maxRetries => o.maxRetries.map .number
  | .retryInterval => o.retryInterval.map .number
  | .maxRedirects => o.maxRedirects.map .number

variable {c c' made : Config} {o o' : Overrides}

/-! ## Settings and what is read of them -/

theorem Value.map_text_inj {a b : Option RawText} : a.map Value.text = b.map .text ↔ a = b :=
  (Option.map_injective fun _ _ same => Value.text.inj same).eq_iff

theorem Value.map_number_inj {a b : Option Number} : a.map Value.number = b.map .number ↔ a = b :=
  (Option.map_injective fun _ _ same => Value.number.inj same).eq_iff

theorem Value.map_proxy_inj {a b : Option ProxyConfig} : a.map Value.proxy = b.map .proxy ↔ a = b :=
  (Option.map_injective fun _ _ same => Value.proxy.inj same).eq_iff

theorem eq_of_value? (same : ∀ s, c.value? s = c'.value? s) : c = c' := by
  cases c
  cases c'
  rw [Config.mk.injEq]
  exact ⟨Value.map_text_inj.mp (same .username), Value.map_text_inj.mp (same .password),
    Value.number.inj (Option.some.inj (same .timeout)), Value.map_proxy_inj.mp (same .proxy),
    Value.number.inj (Option.some.inj (same .maxRetries)),
      Value.number.inj (Option.some.inj (same .retryInterval)),
    Value.number.inj (Option.some.inj (same .maxRedirects))⟩

theorem Overrides.eq_of_value? (same : ∀ s, o.value? s = o'.value? s) : o = o' := by
  cases o
  cases o'
  rw [Overrides.mk.injEq]
  exact ⟨Value.map_text_inj.mp (same .username), Value.map_text_inj.mp (same .password),
    Value.map_number_inj.mp (same .timeout), Value.map_proxy_inj.mp (same .proxy),
    Value.map_number_inj.mp (same .maxRetries), Value.map_number_inj.mp (same .retryInterval),
    Value.map_number_inj.mp (same .maxRedirects)⟩

/-- An override wins over the setting. -/
theorem value?_override (c : Config) (o : Overrides) (s : Setting) :
    (c.override o).value? s = (o.value? s).or (c.value? s) := by
  have text (a b : Option RawText) : (a <|> b).map Value.text = (a.map .text).or (b.map .text) := by
    cases a <;> simp
  have proxy (a b : Option ProxyConfig) : (a <|> b).map Value.proxy =
    (a.map .proxy).or (b.map .proxy) := by
    cases a <;> simp
  have number (a : Option Number) (b : Number) :
      some (Value.number (a.getD b)) = (a.map .number).or (some (.number b)) := by
    cases a <;> simp
  cases s with
  | username => exact text _ _
  | password => exact text _ _
  | proxy => exact proxy _ _
  | timeout => exact number _ _
  | maxRetries => exact number _ _
  | retryInterval => exact number _ _
  | maxRedirects => exact number _ _

/-- The settings with overrides are those that have each override, or else the setting. -/
theorem eq_override_iff :
    made = c.override o ↔ ∀ s, made.value? s = (o.value? s).or (c.value? s) := by
  simp only [← value?_override]
  exact ⟨fun same _ => same ▸ rfl, eq_of_value?⟩

/-- The second one of two overrides wins. -/
theorem Overrides.value?_union (first second : Overrides) (s : Setting) :
    (first.union second).value? s = (second.value? s).or (first.value? s) := by
  have either {α : Type} (make : α → Value) (a b : Option α) : (a <|> b).map make =
    (a.map make).or (b.map make) := by
    cases a <;> simp
  cases s <;> exact either _ _ _

theorem override_union (c : Config) (first second : Overrides) :
    c.override (first.union second) = (c.override first).override second := by
  apply eq_of_value?
  intro s
  simp only [value?_override, Overrides.value?_union, Option.or_assoc]

/-! ## Merges in a row -/

/-- A merge into what another one made is a merge with the overrides of both. -/
theorem merge_union {between : Config} {first : Overrides} (merged : c.merge first = .ok between)
    (second : Overrides) : c.merge (first.union second) = between.merge second := by
  obtain ⟨-, rfl⟩ := merge_eq_ok_iff.mp merged
  rw [merge, merge, override_union]

/-- The override of a setting that was given last. -/
def Overrides.last? (os : List Overrides) (s : Setting) : Option Value :=
  os.reverse.findSome? (·.value? s)

theorem Overrides.last?_cons (o : Overrides) (os : List Overrides) (s : Setting) :
    last? (o :: os) s = (last? os s).or (o.value? s) := by
  simp [last?, List.findSome?_append]

/-- Merges in a row make what one merge makes with the overrides that were given last. -/
theorem merge_of_chain (first : Overrides) {rest : List Overrides}
    (merged : (first :: rest).foldlM merge c = .ok made) {all : Overrides}
    (last : ∀ s, all.value? s = Overrides.last? (first :: rest) s) : c.merge all = .ok made := by
  induction rest generalizing first with
  | nil =>
    have same : all = first :=
      Overrides.eq_of_value? fun s => by simpa [Overrides.last?] using last s
    rw [same]
    simpa using merged
  | cons second rest ih =>
    rw [List.foldlM_cons] at merged
    obtain ⟨between, merged, merged'⟩ := bind_eq_ok.mp merged
    apply ih (first.union second)
    · rwa [List.foldlM_cons, merge_union merged second, ← List.foldlM_cons]
    · intro s
      simp only [last s, Overrides.last?_cons, Overrides.value?_union, Option.or_assoc]

/-! ## What is refused -/

/-- The limit that settings are found to break: the first one of those that they do. -/
inductive Breaks (c : Config) : Error → Prop where
  | timeout (low : c.timeout.atMost 0 = true) : Breaks c (.timeout c.timeout)
  | retryInterval (kept : c.timeout.atMost 0 = false) (low : c.retryInterval.less 0 = true) :
      Breaks c (.retryInterval c.retryInterval)
  | maxRedirects (kept : c.timeout.atMost 0 = false) (kept' : c.retryInterval.less 0 = false)
      (low : c.maxRedirects.less 0 = true) : Breaks c (.maxRedirects c.maxRedirects)

theorem check_eq_error_iff {error : Error} : c.check = .error error ↔ c.Breaks error := by
  unfold check checkTimeout checkRetryInterval checkMaxRedirects
  constructor
  · intro refused
    cases timeout : c.timeout.atMost 0 with
    | true =>
      obtain rfl : Error.timeout c.timeout = error := by
        simpa [timeout, bind, Except.bind] using refused
      exact .timeout timeout
    | false =>
      cases interval : c.retryInterval.less 0 with
      | true =>
        obtain rfl : Error.retryInterval c.retryInterval = error := by
          simpa [timeout, interval, bind, Except.bind] using refused
        exact .retryInterval timeout interval
      | false =>
        cases redirects : c.maxRedirects.less 0 with
        | true =>
          obtain rfl : Error.maxRedirects c.maxRedirects = error := by
            simpa [timeout, interval, redirects, bind, Except.bind] using refused
          exact .maxRedirects timeout interval redirects
        | false => simp [timeout, interval, redirects, bind, Except.bind] at refused
  · intro breaks
    cases breaks <;> simp [*, bind, Except.bind]

/-- Settings are accepted exactly if they break no limit. -/
theorem check_eq_ok_iff_breaks : c.check = .ok () ↔ ∀ error, ¬ c.Breaks error := by
  simp only [← check_eq_error_iff]
  cases c.check with
  | ok => simp
  | error error => simp

/-! ## What is held -/

namespace Lineage

/-- What a merge does to a lineage. -/
structure Grows (l after : Lineage) (made : Except Error Config)
    (place : Except Error Nat) : Prop where
  /-- What was held stays as it is. -/
  held : ∀ place c, l.get? place = some c → after.get? place = some c
  /-- What is made has a place where nothing was. -/
  made : place.map after.get? = made.map some
  fresh : ∀ new, place = .ok new → l.get? new = none

theorem merge_grows {l : Lineage} {place : Nat} (held : l.get? place = some c) (o : Overrides) :
    ∃ new after, l.merge place o = some (new, after) ∧ l.Grows after (c.merge o) new := by
  unfold merge
  rw [held, Option.map_some]
  cases merged : c.merge o with
  | error error => exact ⟨_, _, rfl, fun _ _ => id, rfl, fun _ given => by cases given⟩
  | ok made =>
    refine ⟨_, _, rfl, ?_, ?_, ?_⟩
    · intro other c' there
      exact (List.getElem?_append_left (List.getElem?_eq_some_iff.mp there).1).trans there
    · simp [get?, Except.map]
    · intro new given
      cases given
      exact List.getElem?_eq_none (Nat.le_refl _)

/-- The lineage after a merge, if there are settings at the place. -/
def step (l : Lineage) (merging : Nat × Overrides) : Lineage :=
  ((l.merge merging.1 merging.2).map (·.2)).getD l

/-- The lineage after merges. -/
def after (l : Lineage) (mergings : List (Nat × Overrides)) : Lineage := mergings.foldl step l

theorem get?_step {l : Lineage} {place : Nat} (held : l.get? place = some c)
    (merging : Nat × Overrides) :
    (l.step merging).get? place = some c := by
  unfold step
  cases there : l.get? merging.1 with
  | none => simpa [merge, there] using held
  | some c' =>
    obtain ⟨new, after, merged, grows⟩ := merge_grows there merging.2
    simpa [merged] using grows.held place c held

/-- Settings that are held stay as they are, whatever is merged into them and into others. -/
theorem get?_after {l : Lineage} {place : Nat} (held : l.get? place = some c)
    (mergings : List (Nat × Overrides)) :
    (l.after mergings).get? place = some c := by
  unfold after
  refine List.foldlRecOn (motive := fun l : Lineage => l.get? place = some c) mergings step held ?_
  exact fun _ still merging _ => get?_step still merging

end Lineage

/-! ## The law of merging -/

/-- What merging overrides into settings promises. -/
structure MergeLaw (c : Config) : Prop where
  /-- What two merges make, one makes with overrides of which the second ones win. -/
  composes : ∀ first second both between made, c.merge first = .ok between →
    between.merge second = .ok made →
    (∀ s, both.value? s = (second.value? s).or (first.value? s)) → c.merge both = .ok made
  /-- What any number of merges make, one makes with the overrides that were given last. -/
  chain : ∀ first rest all made, (first :: rest).foldlM merge c = .ok made →
    (∀ s, all.value? s = Overrides.last? (first :: rest) s) → c.merge all = .ok made
  idle : ∀ o made, (∀ s, o.value? s = none) →
    (c.merge o = .ok made ↔ made = c ∧ ∀ error, ¬ c.Breaks error)
  values : ∀ (o : Overrides) (made : Config), c.merge o = .ok made ↔
    (∀ s, made.value? s = (o.value? s).or (c.value? s)) ∧ ∀ error, ¬ made.Breaks error
  /-- A merge is refused exactly if the settings that it would make break a limit. -/
  refused : ∀ (o : Overrides) (made : Config) error,
    (∀ s, made.value? s = (o.value? s).or (c.value? s)) →
    (c.merge o = .error error ↔ made.Breaks error)
  /-- A merge that is made or refused leaves the settings, and all others, as they are. -/
  grows : ∀ (l : Lineage) place o, l.get? place = some c →
    ∃ new after, l.merge place o = some (new, after) ∧ l.Grows after (c.merge o) new
  held : ∀ (l : Lineage) place mergings, l.get? place = some c →
    (l.after mergings).get? place = some c

/-- Merging is a choice of each setting by itself, and composes. -/
theorem merge_law (c : Config) : c.MergeLaw where
  composes first second both between made merged merged' won := by
    have same : both = first.union second :=
      Overrides.eq_of_value? fun s => (won s).trans (Overrides.value?_union first second s).symm
    rw [same, merge_union merged, merged']
  chain first rest all made merged last := merge_of_chain first merged last
  idle o made none := by
    have same : c.override o = c := (eq_override_iff.mpr fun s => by rw [none, Option.none_or]).symm
    rw [merge_eq_ok_iff, same, check_eq_ok_iff_breaks, and_comm, eq_comm]
  values o made := by
    rw [merge_eq_ok_iff, check_eq_ok_iff_breaks, ← eq_override_iff]
    constructor
    · rintro ⟨kept, rfl⟩
      exact ⟨rfl, kept⟩
    · rintro ⟨rfl, kept⟩
      exact ⟨kept, rfl⟩
  refused o made error values := by
    rw [merge_eq_error, check_eq_error_iff, eq_override_iff.mpr values]
  grows l place o held := Lineage.merge_grows held o
  held l place mergings held := Lineage.get?_after held mergings

end Config

end Courier
