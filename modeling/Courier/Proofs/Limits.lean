import Courier.Proofs.Start
import Mathlib.Data.List.Induction

/-!
# Settings within their limits

A setting is refused for lying on the wrong side of its limit. What is not refused lies on the right
side, unless it is a NaN: that lies on neither side of anything, and it is accepted
(`Config.inRange_iff`).

`Config.build` are the settings that a construction and the merges after it make. Over such a
history the limits do what they promise exactly if it gives no NaN that is accepted
(`Config.keepsRange_iff`).
-/

namespace Courier

namespace Config

/-- What settings are to satisfy: each comparison with a limit is true. -/
structure InRange (c : Config) : Prop where
  timeout : Number.less 0 c.timeout = true
  retryInterval : Number.atMost 0 c.retryInterval = true
  maxRedirects : Number.atMost 0 c.maxRedirects = true

/-- Whether one of the limited settings is a NaN. -/
def HasNan (c : Config) : Prop :=
  c.timeout = .nan ∨ c.retryInterval = .nan ∨ c.maxRedirects = .nan

/-- Whether a NaN is given for one of the limited settings. -/
def Overrides.GivesNan (o : Overrides) : Prop :=
  o.timeout = some .nan ∨ o.retryInterval = some .nan ∨ o.maxRedirects = some .nan

variable {c : Config} {o : Overrides}

/-- Settings are in range exactly if they keep the limits and none of the limited ones is a NaN. -/
theorem inRange_iff : c.InRange ↔ c.check = .ok () ∧ ¬ c.HasNan := by
  have zero : (0 : Number) ≠ .nan := by intro same; cases same
  rw [check_eq_ok_iff]
  constructor
  · intro inRange
    obtain ⟨ordered, timeout⟩ := (Number.less_iff _ _).mp inRange.timeout
    obtain ⟨ordered', interval⟩ := (Number.atMost_iff _ _).mp inRange.retryInterval
    obtain ⟨ordered'', redirects⟩ := (Number.atMost_iff _ _).mp inRange.maxRedirects
    refine ⟨⟨timeout, interval, redirects⟩, ?_⟩
    rintro (nan | nan | nan)
    · exact ordered (.inr nan)
    · exact ordered' (.inr nan)
    · exact ordered'' (.inr nan)
  · rintro ⟨⟨timeout, interval, redirects⟩, ordered⟩
    simp only [HasNan, not_or] at ordered
    refine ⟨?_, ?_, ?_⟩
    · exact (Number.less_iff _ _).mpr ⟨by simp [zero, ordered], timeout⟩
    · exact (Number.atMost_iff _ _).mpr ⟨by simp [zero, ordered], interval⟩
    · exact (Number.atMost_iff _ _).mpr ⟨by simp [zero, ordered], redirects⟩

/-- A NaN among the settings that overrides make was there before or is given by them. -/
theorem hasNan_of_override (nan : (c.override o).HasNan) : c.HasNan ∨ o.GivesNan := by
  simp only [HasNan, override, Option.getD_eq_iff] at nan
  rcases nan with (given | ⟨-, kept⟩) | (given | ⟨-, kept⟩) | (given | ⟨-, kept⟩)
  · exact .inr (.inl given)
  · exact .inl (.inl kept)
  · exact .inr (.inr (.inl given))
  · exact .inl (.inr (.inl kept))
  · exact .inr (.inr (.inr given))
  · exact .inl (.inr (.inr kept))

theorem hasNan_override (nan : o.GivesNan) : (c.override o).HasNan := by
  rcases nan with given | given | given <;> simp [HasNan, override, given]

theorem merge_eq_error_iff :
    (∃ error, c.merge o = .error error) ↔ (c.override o).check ≠ .ok () := by
  simp only [merge_eq_error]
  cases (c.override o).check <;> simp

/-! ## Histories of settings -/

/-- The settings that a construction and the merges after it make, if none of them is refused. -/
def build (history : List Overrides) : Except Error Config := history.foldlM merge default

theorem build_create (given : Overrides) : build [given] = create given := by
  simp [build, create]

theorem build_concat_eq_ok_iff {history : List Overrides} : build (history ++ [o]) = .ok c ↔
    ∃ before, build history = .ok before ∧ before.merge o = .ok c := by
  simp only [build, List.foldlM_append, List.foldlM_cons, List.foldlM_nil, bind_pure]
  exact bind_eq_ok

/-- Settings that were built keep the limits. -/
theorem check_of_build {history : List Overrides} (built : build history = .ok c) :
    c.check = .ok () := by
  rcases history.eq_nil_or_concat with rfl | ⟨done, o, rfl⟩
  · cases built
    exact check_of_create create_none
  · rw [List.concat_eq_append, build_concat_eq_ok_iff] at built
    obtain ⟨before, -, merged⟩ := built
    obtain ⟨checked, rfl⟩ := merge_eq_ok_iff.mp merged
    exact checked

/-- What the limits promise of a history: whatever it has made so far is in range, and the next
    construction or merge is refused exactly if it would make something that is not. -/
structure KeepsRange (history : List Overrides) : Prop where
  accepted : ∀ done c, done <+: history → build done = .ok c → c.InRange
  refused : ∀ done o c, done ++ [o] <+: history → build done = .ok c →
    ((∃ error, c.merge o = .error error) ↔ ¬ (c.override o).InRange)

/-- Whether a construction or merge of a history gives a NaN and is accepted. -/
def AcceptsNan (history : List Overrides) : Prop :=
  ∃ done o c, done ++ [o] <+: history ∧ o.GivesNan ∧ build (done ++ [o]) = .ok c

/-- Settings have no NaN as long as none was given and accepted. -/
theorem not_hasNan_of_build {history : List Overrides} (refuses : ¬ AcceptsNan history)
    {done : List Overrides} (before : done <+: history) (built : build done = .ok c) :
    ¬ c.HasNan := by
  induction done using List.reverseRecOn generalizing c with
  | nil =>
    cases built
    rintro (nan | nan | nan) <;> cases nan
  | append_singleton done o ih =>
    obtain ⟨c', built', merged⟩ := build_concat_eq_ok_iff.mp built
    obtain ⟨-, rfl⟩ := merge_eq_ok_iff.mp merged
    intro nan
    rcases hasNan_of_override nan with earlier | given
    · exact ih ((List.prefix_append done [o]).trans before) built' earlier
    · exact refuses ⟨done, o, _, before, given, built⟩

/-- The limits keep their promise over a history exactly if it accepts no NaN. -/
theorem keepsRange_iff (history : List Overrides) : KeepsRange history ↔ ¬ AcceptsNan history := by
  constructor
  · rintro keeps ⟨done, o, c, before, nan, built⟩
    have inRange := keeps.accepted _ c before built
    obtain ⟨c', -, merged⟩ := build_concat_eq_ok_iff.mp built
    obtain ⟨-, rfl⟩ := merge_eq_ok_iff.mp merged
    exact (inRange_iff.mp inRange).2 (hasNan_override nan)
  · intro refuses
    refine ⟨?_, ?_⟩
    · intro done c before built
      exact inRange_iff.mpr ⟨check_of_build built, not_hasNan_of_build refuses before built⟩
    · intro done o c before built
      rw [merge_eq_error_iff]
      constructor
      · intro unchecked inRange
        exact unchecked (inRange_iff.mp inRange).1
      · -- were it accepted, it would be a part of the history without a NaN, and so in range
        intro outOfRange checked
        have next : build (done ++ [o]) = .ok (c.override o) :=
          build_concat_eq_ok_iff.mpr ⟨c, built, merge_eq_ok_iff.mpr ⟨checked, rfl⟩⟩
        exact outOfRange (inRange_iff.mpr ⟨checked, not_hasNan_of_build refuses before next⟩)

/-- Nothing is given but a NaN for the number of redirects. -/
def nanRedirects : Overrides := { Overrides.none with maxRedirects := some .nan }

/-- A NaN is accepted for the number of redirects, and it is not at least zero. -/
theorem nan_redirects_accepted :
    ∃ c, create nanRedirects = .ok c ∧ Number.atMost 0 c.maxRedirects = false ∧
      ¬ KeepsRange [nanRedirects] := by
  obtain ⟨timeout, interval, -⟩ := check_eq_ok_iff.mp (check_of_create create_none)
  have given : default.override nanRedirects = { Config.default with maxRedirects := .nan } := by
    simp [override, nanRedirects, Overrides.none, default]
  have made : create nanRedirects = .ok { Config.default with maxRedirects := .nan } := by
    rw [create, merge_eq_ok_iff, given, check_eq_ok_iff]
    exact ⟨⟨timeout, interval, rfl⟩, rfl⟩
  refine ⟨_, made, rfl, ?_⟩
  rw [keepsRange_iff, not_not]
  exact ⟨[], nanRedirects, _, List.prefix_refl _, .inr (.inr rfl), (build_create _).trans made⟩

end Config

end Courier
