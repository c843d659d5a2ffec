import Courier.Proofs.Concealed
import Courier.Proofs.Settled

/-!
# Sessions without their passwords

A session is concealed by leaving out every password that it holds, in the store and in the states,
but for those of credentials without octets: the error that these are met with tells the password.
The operations on stores, caches and sessions do not look at passwords, so each of them comes to the
same with the session concealed before it as after it, and logs the same. Sessions that are the same
when concealed prepare requests that are the same when concealed (`Client.prepare_alike`).
-/

namespace Courier

/-- The credentials without the password, if they have octets. -/
def Credentials.concealed (c : Credentials) : Credentials :=
  match c.octets with
  | .ok _ => { c with password := "" }
  | .error _ => c

namespace Credentials

variable {c c' : Credentials}

/-- Whether credentials of one user tell their passwords in the same way: they are the same, or both
    can be presented. -/
def Interchangeable (c c' : Credentials) : Prop := c' = c ∨ c.IsEncodable ∧ c'.IsEncodable

/-- Credentials without octets are told by the error that they are met with. -/
theorem eq_of_error {error : RawText.Unencodable} (failed : c.octets = .error error)
    (failed' : c'.octets = .error error) (names : c'.username = c.username) : c' = c := by
  have text : ∀ {t : RawText}, t.encode = .error error → error = ⟨t⟩ := by
    intro t encoded
    unfold RawText.encode at encoded
    split at encoded <;> cases encoded
    rfl
  have texts := RawText.Unencodable.mk.inj ((text failed').symm.trans (text failed))
  have passwords := congrArg RawText.chars texts
  obtain ⟨username, password⟩ := c
  obtain ⟨username', password'⟩ := c'
  cases names
  exact congrArg (fun chars => Credentials.mk username ⟨chars⟩) (List.append_cancel_left passwords)

theorem interchangeable_of_errors (names : c'.username = c.username)
    (errors : ∀ error, c.octets = .error error ↔ c'.octets = .error error) :
    c.Interchangeable c' := by
  cases octets : c.octets with
  | error error => exact .inl (eq_of_error octets ((errors error).mp octets) names)
  | ok encoded =>
    cases octets' : c'.octets with
    | error error =>
      rw [(errors error).mpr octets'] at octets
      cases octets
    | ok encoded' => exact .inr ⟨⟨encoded, octets⟩, ⟨encoded', octets'⟩⟩

theorem concealed_of_encodable (encodable : c.IsEncodable) :
    c.concealed = { c with password := "" } := by
  obtain ⟨octets, encoded⟩ := encodable
  simp only [concealed, encoded]

theorem concealed_of_error {error : RawText.Unencodable} (failed : c.octets = .error error) :
    c.concealed = c := by
  simp only [concealed, failed]

@[simp] theorem concealed_username (c : Credentials) : c.concealed.username = c.username := by
  unfold concealed
  split <;> rfl

theorem Interchangeable.concealed (same : c.Interchangeable c') (names : c'.username = c.username) :
    c'.concealed = c.concealed := by
  rcases same with rfl | ⟨encodable, encodable'⟩
  · rfl
  · rw [concealed_of_encodable encodable, concealed_of_encodable encodable', names]

/-- Whether credentials have octets is not concealed. -/
theorem concealed_isEncodable : c.concealed.IsEncodable ↔ c.IsEncodable := by
  cases octets : c.octets with
  | error error => rw [concealed_of_error octets]
  | ok encoded =>
    have encodable : c.IsEncodable := ⟨encoded, octets⟩
    rw [concealed_of_encodable encodable]
    refine iff_of_true (isEncodable_iff.mpr ⟨(isEncodable_iff.mp encodable).1, ?_⟩) encodable
    exact RawText.isEncodable_iff.mpr ⟨[], rfl⟩

theorem concealed_concealed (c : Credentials) : c.concealed.concealed = c.concealed := by
  cases octets : c.octets with
  | error error => rw [concealed_of_error octets, concealed_of_error octets]
  | ok encoded =>
    have encodable : c.IsEncodable := ⟨encoded, octets⟩
    rw [concealed_of_encodable (concealed_isEncodable.mpr encodable),
      concealed_of_encodable encodable]

/-- Credentials that are the same when concealed are presented both, or neither, for the same
    reason. -/
theorem basicHeader_alike (same : c'.concealed = c.concealed) :
    (∃ error, c.basicHeader = .error error ∧ c'.basicHeader = .error error) ∨
      ∃ value value', c.basicHeader = .ok value ∧ c'.basicHeader = .ok value' := by
  have alike : c'.IsEncodable ↔ c.IsEncodable := by
    rw [← concealed_isEncodable, same, concealed_isEncodable]
  cases octets : c.octets with
  | ok encoded =>
    obtain ⟨encoded', octets'⟩ := alike.mpr ⟨encoded, octets⟩
    exact .inr ⟨_, _, by rw [basicHeader, octets]; rfl, by rw [basicHeader, octets']; rfl⟩
  | error error =>
    cases octets' : c'.octets with
    | ok encoded' =>
      obtain ⟨encoded, octets''⟩ := alike.mp ⟨encoded', octets'⟩
      rw [octets] at octets''
      cases octets''
    | error error' =>
      rw [concealed_of_error octets, concealed_of_error octets'] at same
      subst same
      exact .inl ⟨error, basicHeader_eq_error.mpr octets, basicHeader_eq_error.mpr octets⟩

end Credentials

/-- The state without the password of its credentials. -/
def AuthState.concealed (s : AuthState) : AuthState :=
  { s with credentials := s.credentials.map Credentials.concealed }

/-- The store without passwords. -/
def CredentialStore.concealed (s : CredentialStore) : CredentialStore :=
  ⟨s.entries.map fun entry => (entry.1, entry.2.concealed)⟩

/-- The cache without passwords. -/
def AuthCache.concealed (c : AuthCache) : AuthCache :=
  ⟨c.entries.map fun entry => (entry.1, entry.2.concealed)⟩

/-- The session without passwords. -/
def Session.concealed (s : Session) : Session :=
  { s with store := s.store.concealed, cache := s.cache.concealed }

theorem Credentials.shown_concealed (c : Credentials) : c.concealed.shown = c.shown := by
  unfold shown
  rw [concealed_username]

theorem AuthState.shown_concealed (s : AuthState) : s.concealed.shown = s.shown := by
  unfold shown concealed
  cases s.credentials with
  | none => rfl
  | some credentials => simp only [Option.map_some, Credentials.shown_concealed]

theorem lookup_mapValue {α β γ : Type} [BEq α] (f : β → γ) (entries : List (α × β)) (key : α) :
    (entries.map fun entry => (entry.1, f entry.2)).lookup key = (entries.lookup key).map f := by
  induction entries with
  | nil => rfl
  | cons entry rest ih =>
    obtain ⟨host, value⟩ := entry
    simp only [List.map_cons, List.lookup_cons, ih]
    cases key == host <;> rfl

/-- The values of entries can be mapped before one of them is replaced. -/
theorem mapValue_replace {α β γ : Type} [BEq α] (f : β → γ) (entries : List (α × β)) (key : α)
    (value : β) :
    (entries.map fun entry => if entry.1 == key then (key, value) else entry).map
        (fun entry => (entry.1, f entry.2)) =
      (entries.map fun entry => (entry.1, f entry.2)).map fun entry =>
        if entry.1 == key then (key, f value) else entry := by
  rw [List.map_map, List.map_map]
  apply List.map_congr_left
  intro entry _
  simp only [Function.comp_apply]
  split <;> rfl

namespace CredentialStore

variable (s : CredentialStore) (scope : Scope)

theorem concealed_set (credentials : Credentials) :
    (s.set scope credentials).concealed = s.concealed.set scope credentials.concealed := by
  unfold set concealed
  simp only [List.any_map, Function.comp_def]
  split
  · rw [mapValue_replace]
  · simp

theorem foldl_better_concealed (target : Scope) (entries : List (Scope × Credentials))
    (best : Option (Int × Credentials)) :
    ((entries.map fun entry => (entry.1, entry.2.concealed)).foldl (better target)
        (best.map fun found => (found.1, found.2.concealed))) =
      (entries.foldl (better target) best).map fun found => (found.1, found.2.concealed) := by
  induction entries generalizing best with
  | nil => rfl
  | cons entry rest ih =>
    -- entries are compared by their scopes alone
    have next : better target (best.map fun found => (found.1, found.2.concealed))
          (entry.1, entry.2.concealed) =
        (better target best entry).map fun found => (found.1, found.2.concealed) := by
      unfold better
      cases best with
      | none =>
        simp only [Option.map_none]
        split <;> rfl
      | some found =>
        simp only [Option.map_some]
        split <;> rfl
    rw [List.map_cons, List.foldl_cons, List.foldl_cons, next, ih]

@[simp] theorem find?_concealed :
    s.concealed.find? scope = (s.find? scope).map Credentials.concealed := by
  have exact : s.concealed.get? scope = (s.get? scope).map Credentials.concealed :=
    lookup_mapValue Credentials.concealed s.entries scope
  have best : s.concealed.bestMatch? scope = (s.bestMatch? scope).map Credentials.concealed := by
    have folded := foldl_better_concealed scope s.entries none
    simp only [Option.map_none] at folded
    rw [bestMatch?, concealed, folded, bestMatch?, Option.map_map, Option.map_map]
    rfl
  unfold find?
  rw [exact, best]
  cases s.get? scope <;> rfl

theorem lookup_records_concealed :
    (s.concealed.lookup scope).records = (s.lookup scope).records := by
  unfold lookup
  rw [find?_concealed]
  cases s.find? scope <;> rfl

end CredentialStore

namespace AuthCache

variable (c : AuthCache) (host : Scope) (state : AuthState)

@[simp] theorem get?_concealed : c.concealed.get? host = (c.get? host).map AuthState.concealed :=
  lookup_mapValue AuthState.concealed c.entries host

theorem concealed_set : (c.set host state).concealed = c.concealed.set host state.concealed := by
  unfold set contains
  rw [get?_concealed, Option.isSome_map]
  unfold concealed
  split
  · rw [mapValue_replace]
  · simp

theorem commit_concealed :
    (c.concealed.commit host state.concealed).value =
        ((c.commit host state).value.1.concealed, (c.commit host state).value.2.concealed) ∧
      (c.concealed.commit host state.concealed).records = (c.commit host state).records := by
  unfold commit
  rw [get?_concealed]
  cases c.get? host with
  | none =>
    refine ⟨?_, rfl⟩
    simp only [Option.map_none, concealed_set]
  | some current => exact ⟨rfl, rfl⟩

end AuthCache

namespace Session

variable (s : Session) (target : Scope)

theorem authenticate_concealed :
    (s.concealed.authenticate target).value.session =
    (s.authenticate target).value.session.concealed ∧
      (s.concealed.authenticate target).value.state =
        (s.authenticate target).value.state.map AuthState.concealed ∧
      (s.concealed.authenticate target).records = (s.authenticate target).records := by
  have cached := s.cache.get?_concealed target
  have found := s.store.find?_concealed target
  have records := s.store.lookup_records_concealed target
  unfold authenticate
  simp only [CredentialStore.lookup_value, concealed, cached, found, records]
  cases s.cache.get? target with
  | some state => exact ⟨rfl, rfl, rfl⟩
  | none =>
    cases s.store.find? target with
    | none => exact ⟨rfl, rfl, rfl⟩
    | some credentials =>
      obtain ⟨value, logged⟩ :=
        s.cache.commit_concealed target ⟨s.nextSerial, .basic, some credentials⟩
      refine ⟨?_, ?_, ?_⟩
      · exact congrArg (fun value : AuthCache × AuthState => Session.mk _ value.1 _) value
      · exact congrArg (fun value : AuthCache × AuthState => some value.2) value
      · simp only [newState, Option.map_none, Option.map_some, Credentials.concealed_username]
        rw [← logged]
        rfl

theorem concealed_concealed : s.concealed.concealed = s.concealed := by
  have states : ∀ state : AuthState, state.concealed.concealed = state.concealed := by
    intro state
    simp only [AuthState.concealed, Option.map_map, Function.comp_def,
      Credentials.concealed_concealed]
  simp only [concealed, CredentialStore.concealed, AuthCache.concealed, List.map_map,
    Function.comp_def, states, Credentials.concealed_concealed]

theorem credentials?_concealed :
    s.concealed.credentials? target = (s.credentials? target).map Credentials.concealed := by
  unfold credentials?
  simp only [concealed, AuthCache.get?_concealed, CredentialStore.find?_concealed]
  cases s.cache.get? target with
  | none => cases s.store.find? target <;> rfl
  | some state =>
    cases bound : state.credentials with
    | some credentials => simp [AuthState.concealed, bound]
    | none => cases s.store.find? target <;> simp [AuthState.concealed, bound]

theorem resolve_records_concealed (state : AuthState) :
    (s.concealed.resolve state.concealed target).records = (s.resolve state target).records := by
  unfold resolve AuthState.concealed
  cases state.credentials with
  | some credentials => rfl
  | none => exact s.store.lookup_records_concealed target

end Session

namespace Client

section

variable (request : Http.Request)

/-- Of the credentials to present, passwords matter only to what is concealed. -/
theorem presenting_concealed {credentials credentials' : Option Credentials}
    (same : credentials'.map Credentials.concealed = credentials.map Credentials.concealed) :
    (presenting request credentials').concealed = (presenting request credentials).concealed := by
  unfold presenting
  cases credentials with
  | none =>
    cases credentials' with
    | none => rfl
    | some _ => cases same
  | some _ =>
    cases credentials' with
    | none => cases same
    | some _ =>
      rw [Http.Headers.concealed_set, Http.Headers.concealed_set,
        Exchange.authorizationField_concealed, Exchange.authorizationField_concealed]

theorem outgoing_concealed (headers : Http.Headers) :
    (outgoing request headers).map Http.Request.concealed = outgoing request headers.concealed := by
  unfold outgoing
  split
  · simp only [Except.map, Http.Request.concealed_rebuild]
  · rfl

/-- What is sent presenting credentials that are the same when concealed is so too. -/
theorem present_concealed {credentials credentials' : Option Credentials}
    (same : credentials'.map Credentials.concealed = credentials.map Credentials.concealed) :
    (present request credentials').map Http.Request.concealed =
      (present request credentials).map Http.Request.concealed := by
  have fields := presenting_concealed request same
  cases credentials with
  | none =>
    cases credentials' with
    | none => rfl
    | some _ => cases same
  | some credentials =>
    cases credentials' with
    | none => cases same
    | some credentials' =>
      rcases Credentials.basicHeader_alike (Option.some.inj same) with
        ⟨error, failed, failed'⟩ | ⟨value, value', header, header'⟩
      · rw [present_of_unencodable _ failed, present_of_unencodable _ failed']
      · simp only [present, header, header']
        change (outgoing request (presenting request (some credentials'))).map
          Http.Request.concealed =
          (outgoing request (presenting request (some credentials))).map Http.Request.concealed
        rw [outgoing_concealed, outgoing_concealed, fields]

end

variable [Codecs] (request : Http.Request) {c c' : Client}
    (same : c'.session.concealed = c.session.concealed)

include same

theorem preparedSession_concealed :
    (c'.preparedSession request).concealed = (c.preparedSession request).concealed := by
  unfold preparedSession
  split
  · exact same
  · rw [← (c'.session.authenticate_concealed _).1, ← (c.session.authenticate_concealed _).1, same]

omit [Codecs] in
/-- Sessions that are the same but for passwords give a target states that are the same but for
    theirs. -/
theorem authenticate_alike (target : Scope) :
    (c'.session.authenticate target).value.state.map AuthState.concealed =
        (c.session.authenticate target).value.state.map AuthState.concealed ∧
      (c'.session.authenticate target).records = (c.session.authenticate target).records := by
  obtain ⟨-, state, records⟩ := c.session.authenticate_concealed target
  obtain ⟨-, state', records'⟩ := c'.session.authenticate_concealed target
  rw [← state, ← state', ← records, ← records', same]
  exact ⟨rfl, rfl⟩

theorem prepare_records_alike : (c'.prepare request).records = (c.prepare request).records := by
  unfold prepare
  cases Scope.ofUrl request.url with
  | error error => rfl
  | ok target =>
    obtain ⟨states, records⟩ := authenticate_alike same target
    have sessions : (c'.session.authenticate target).value.session.concealed =
        (c.session.authenticate target).value.session.concealed := by
      rw [← (c'.session.authenticate_concealed _).1, ← (c.session.authenticate_concealed _).1, same]
    dsimp only
    cases given : (c.session.authenticate target).value.state with
    | none =>
      rw [given, Option.map_none, Option.map_eq_none_iff] at states
      simp only [states, records]
    | some state =>
      rw [given, Option.map_some, Option.map_eq_some_iff] at states
      obtain ⟨state', given', alike⟩ := states
      have resolved :
          ((c'.session.authenticate target).value.session.resolve state' target).records =
          ((c.session.authenticate target).value.session.resolve state target).records := by
        rw [← Session.resolve_records_concealed, alike, sessions, Session.resolve_records_concealed]
      simp only [given', apply_ite Logged.records, records, resolved]

/-- Clients whose sessions are the same but for passwords prepare requests that are the same when
    concealed, and the very same one if it has a field of authorization. -/
theorem prepare_alike :
    (c'.prepare request).value.2.map Http.Request.concealed =
        (c.prepare request).value.2.map Http.Request.concealed ∧
      (request.headers.contains Http.FieldName.authorization = true →
        (c'.prepare request).value.2 = (c.prepare request).value.2) := by
  obtain ⟨states, -⟩ := authenticate_alike same request.url.scope
  have credentials : (c'.session.credentials? request.url.scope).map Credentials.concealed =
      (c.session.credentials? request.url.scope).map Credentials.concealed := by
    rw [← Session.credentials?_concealed, ← Session.credentials?_concealed, same]
  rw [prepare_request, prepare_request]
  rcases Scope.ofUrl_cases request.url with ⟨error, -, unnamed⟩ | ⟨-, scope⟩
  · rw [unnamed]
    exact ⟨rfl, fun _ => rfl⟩
  · simp only [scope]
    cases given : (c.session.authenticate request.url.scope).value.state with
    | none =>
      rw [given, Option.map_none, Option.map_eq_none_iff] at states
      rw [states]
      exact ⟨rfl, fun _ => rfl⟩
    | some state =>
      rw [given, Option.map_some, Option.map_eq_some_iff] at states
      obtain ⟨state', given', -⟩ := states
      simp only [given', outgoingRequest, presented_of_authenticate given,
        presented_of_authenticate given']
      cases request.headers.contains Http.FieldName.authorization with
      | true => exact ⟨rfl, fun _ => rfl⟩
      | false =>
        exact ⟨present_concealed request credentials, fun own => absurd own Bool.false_ne_true⟩

end Client

end Courier
