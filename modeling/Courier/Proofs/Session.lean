import Courier.Auth.Session
import Courier.Proofs.Matching

/-!
# What a session has credentials for

Authenticating changes nothing about the store, so a session whose store has credentials for every
target never lacks an auth state. The credentials a session presents at a target are
`Session.credentials?`: those of its auth state, or else those that the store finds.
-/

namespace Courier

namespace Session

theorem resolve_value (s : Session) (state : AuthState) (target : Scope) :
    (s.resolve state target).value = (state.credentials <|> s.store.find? target) := by
  unfold resolve
  cases state.credentials with
  | none => simp [CredentialStore.lookup_value]
  | some credentials => rfl

/-- What authenticating to a target comes to: the state that is committed for it, nothing for want
    of credentials, or a new state. -/
theorem authenticate_cases (s : Session) (target : Scope) :
    (∃ state, s.cache.get? target = some state ∧ (s.authenticate target).value = ⟨s, some state⟩) ∨
      (s.cache.get? target = none ∧ s.store.find? target = none ∧
        (s.authenticate target).value = ⟨s, none⟩) ∨
      ∃ credentials, s.cache.get? target = none ∧ s.store.find? target = some credentials ∧
        let state : AuthState := ⟨s.nextSerial, .basic, some credentials⟩
        (s.authenticate target).value =
          ⟨{ s with cache := s.cache.set target state, nextSerial := s.nextSerial + 1 },
            some state⟩ := by
  unfold authenticate
  cases cached : s.cache.get? target with
  | some state => exact .inl ⟨state, rfl, rfl⟩
  | none =>
    rw [← CredentialStore.lookup_value]
    cases found : (s.store.lookup target).value with
    | none => exact .inr (.inl ⟨rfl, rfl, by simp [found]⟩)
    | some credentials =>
      exact .inr (.inr ⟨credentials, rfl, rfl, by simp [found, newState, AuthCache.commit, cached]⟩)

/-- Authenticating keeps the credentials. -/
@[simp] theorem authenticate_store (s : Session) (target : Scope) :
    (s.authenticate target).value.session.store = s.store := by
  rcases s.authenticate_cases target with ⟨_, -, given⟩ | ⟨-, -, given⟩ | ⟨_, -, -, given⟩
    <;> rw [given]

/-- A target is without an auth state exactly if none is committed and no credentials are found. -/
theorem authenticate_state_eq_none (s : Session) (target : Scope) :
    (s.authenticate target).value.state = none ↔
      s.cache.get? target = none ∧ s.store.find? target = none := by
  rcases s.authenticate_cases target with ⟨state, cached, given⟩ | ⟨cached, found, given⟩ |
    ⟨credentials, cached, found, given⟩
  · simp [given, cached]
  · simp [given, cached, found]
  · simp [given, found]

/-- A session whose store covers every target has an auth state for each. -/
theorem authenticate_of_covers {s : Session} (h : s.store.Covers) (target : Scope) :
    ∃ state, (s.authenticate target).value.state = some state := by
  apply Option.ne_none_iff_exists'.mp
  intro none
  have missing := ((s.authenticate_state_eq_none target).mp none).2
  have found := h target
  simp [missing] at found

/-- The credentials that a session presents at a target: those of the auth state of the target, or
    else those that the store finds. -/
def credentials? (s : Session) (target : Scope) : Option Credentials :=
  (s.cache.get? target).bind (·.credentials) <|> s.store.find? target

/-- The state that a target is given presents the credentials of the session. -/
theorem credentials_of_authenticate {s : Session} {target : Scope} {state : AuthState}
    (given : (s.authenticate target).value.state = some state) :
    (state.credentials <|> s.store.find? target) = s.credentials? target := by
  unfold credentials?
  rcases s.authenticate_cases target with ⟨state', cached, now⟩ | ⟨-, -, now⟩ |
    ⟨credentials, cached, found, now⟩
  · simp only [now, Option.some.injEq] at given
    rw [cached, given]
    rfl
  · simp [now] at given
  · simp only [now, Option.some.injEq] at given
    rw [cached, found, ← given]
    rfl

/-- A target is without an auth state exactly if none is committed and the session has no
    credentials to present there. -/
theorem unauthenticated_iff (s : Session) (target : Scope) :
    (s.authenticate target).value.state = none ↔
      s.cache.get? target = none ∧ s.credentials? target = none := by
  rw [authenticate_state_eq_none]
  refine and_congr_right fun uncached => ?_
  simp [credentials?, uncached]

/-- Authenticating commits a state for the target, with the credentials that the store finds, if
    there is none, and does nothing about any other host. -/
theorem get?_authenticate {s : Session} {target host : Scope} {state : AuthState}
    (cached : (s.authenticate target).value.session.cache.get? host = some state) :
    s.cache.get? host = some state ∨
      host = target ∧ state.credentials.isSome = true ∧
        state.credentials = s.store.find? target := by
  rcases s.authenticate_cases target with ⟨_, -, given⟩ | ⟨-, -, given⟩ | ⟨credentials,
    -, found, given⟩
  · rw [given] at cached
    exact .inl cached
  · rw [given] at cached
    exact .inl cached
  · simp only [given, AuthCache.get?_set] at cached
    split at cached
    · rename_i same
      cases cached
      exact .inr ⟨same, rfl, found.symm⟩
    · exact .inl cached

/-- Authenticating does nothing about the states of other hosts. -/
theorem get?_authenticate_of_ne (s : Session) {target host : Scope} (apart : host ≠ target) :
    (s.authenticate target).value.session.cache.get? host = s.cache.get? host := by
  rcases s.authenticate_cases target with ⟨_, -, given⟩ | ⟨-, -, given⟩ | ⟨_, -, -, given⟩
  · rw [given]
  · rw [given]
  · simp [given, AuthCache.get?_set, apart]

/-- The state that a target is given is committed for it. -/
theorem get?_of_authenticate {s : Session} {target : Scope} {state : AuthState}
    (given : (s.authenticate target).value.state = some state) :
    (s.authenticate target).value.session.cache.get? target = some state := by
  rcases s.authenticate_cases target with ⟨state', cached, now⟩ | ⟨-, -, now⟩ | ⟨_, -, -, now⟩
  · rw [now] at given ⊢
    exact cached.trans given
  · simp [now] at given
  · rw [now] at given ⊢
    simpa [AuthCache.get?_set] using given

/-- A target with a committed state is given it, and the session stays as it is. -/
theorem authenticate_of_cached {s : Session} {target : Scope} {state : AuthState}
    (cached : s.cache.get? target = some state) :
    (s.authenticate target).value = ⟨s, some state⟩ := by
  rcases s.authenticate_cases target with ⟨state', cached', given⟩ | ⟨uncached, -, -⟩ |
    ⟨_, uncached, -, -⟩
  · rw [given, ← cached', cached]
  · simp [cached] at uncached
  · simp [cached] at uncached

/-- Without credentials for the target, the session stays as it is. -/
theorem authenticate_of_refused {s : Session} {target : Scope}
    (refused : (s.authenticate target).value.state = none) :
    (s.authenticate target).value.session = s := by
  rcases s.authenticate_cases target with ⟨_, -, given⟩ | ⟨-, -, given⟩ | ⟨_, -, -, given⟩
  · rw [given]
  · rw [given]
  · simp [given] at refused

end Session

end Courier
