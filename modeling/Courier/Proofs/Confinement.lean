import Courier.Proofs.Authorization
import Courier.Url.Port
import Mathlib.Data.List.Induction

/-!
# Where credentials go

Credentials are registered for a scope, and a client presents them at targets only that the scope
fits. What carries this over redirects, and over states that outlive the store's entries, is
`Session.ConfinedTo`: the credentials of a committed state were registered, at some time, for a
scope that fits the state's host. It is kept by everything that is done with a client, unless the
caller commits states of its own (`after_confined`).

A target is the scope of a URL. That is not the server that the URL names where the port comes from
the scheme and the scheme is not of the web, and there credentials go astray (`confines_iff`).
-/

namespace Courier

section

variable [Codecs]

/-- The port that a URL names, or else the one that its scheme stands for. -/
def Url.effectivePort? (u : Url) : Option Int := u.port <|> Url.Port.default? u.scheme

/-- The scope of the server that a URL names. -/
def Scope.ofServer (u : Url) : Scope := .of (some (String.ofList u.hostName)) u.effectivePort?

theorem Scope.ofServer_eq_scope {u : Url} (same : u.scope.port = u.effectivePort?) :
    Scope.ofServer u = u.scope :=
  congrArg (Scope.of (some (String.ofList u.hostName))) same.symm

namespace Session

/-- A session that only has credentials that were registered: its store has entries of them, and the
    credentials of an auth state were registered for a scope that fits the state's host. -/
structure ConfinedTo (registered : Scope × Credentials → Prop) (s : Session) : Prop where
  store : ∀ entry ∈ s.store.entries, registered entry
  states : ∀ host state, s.cache.get? host = some state → ∀ credentials,
    state.credentials = some credentials → ∃ scope, registered (scope, credentials) ∧
      scope.Fits host

namespace ConfinedTo

variable {registered : Scope × Credentials → Prop} {s : Session}

omit [Codecs] in
theorem mono (confined : s.ConfinedTo registered) {more : Scope × Credentials → Prop}
    (le : ∀ entry, registered entry → more entry) : s.ConfinedTo more where
  store entry member := le entry (confined.store entry member)
  states host state cached credentials own := by
    obtain ⟨scope, known, fits⟩ := confined.states host state cached credentials own
    exact ⟨scope, le _ known, fits⟩

/-- What the store finds for the target of a URL was registered for a scope that fits it. -/
theorem find? (confined : s.ConfinedTo registered) (url : Url) {credentials : Credentials}
    (found : s.store.find? url.scope = some credentials) :
    ∃ scope, registered (scope, credentials) ∧ scope.Fits url.scope := by
  obtain ⟨scope, member, fits⟩ := CredentialStore.fits_of_find? rfl rfl found
  exact ⟨scope, confined.store _ member, fits⟩

theorem credentials? (confined : s.ConfinedTo registered) (url : Url) {credentials : Credentials}
    (presented : s.credentials? url.scope = some credentials) :
    ∃ scope, registered (scope, credentials) ∧ scope.Fits url.scope := by
  unfold Session.credentials? at presented
  cases own : (s.cache.get? url.scope).bind (·.credentials) with
  | some credentials' =>
    obtain ⟨state, cached, bound⟩ := Option.bind_eq_some_iff.mp own
    simp only [own, Option.orElse_eq_orElse, Option.orElse_eq_or, Option.some_or,
      Option.some.injEq] at presented
    exact confined.states _ state cached credentials (presented ▸ bound)
  | none =>
    simp only [own, Option.orElse_eq_orElse, Option.orElse_eq_or, Option.none_or] at presented
    exact confined.find? url presented

theorem authenticate (confined : s.ConfinedTo registered) (url : Url) :
    (s.authenticate url.scope).value.session.ConfinedTo registered where
  store := by simpa using confined.store
  states host state cached credentials own := by
    -- a state that is new is one for this URL, with what the store finds for it
    rcases get?_authenticate cached with before | ⟨here, -, found⟩
    · exact confined.states host state before credentials own
    · rw [here]
      exact confined.find? url (found ▸ own)

omit [Codecs] in
theorem remove (confined : s.ConfinedTo registered) (host : Scope) :
    ({ s with cache := s.cache.remove host } : Session).ConfinedTo registered where
  store := confined.store
  states other state cached := by
    simp only [AuthCache.get?_remove] at cached
    split at cached
    · cases cached
    · exact confined.states other state cached

/-- Preparing a request leaves a confined session confined. -/
theorem prepared {c : Client} (confined : c.session.ConfinedTo registered)
    (request : Http.Request) :
    (c.preparedSession request).ConfinedTo registered := by
  unfold Client.preparedSession
  rcases Scope.ofUrl_cases request.url with ⟨error, -, unnamed⟩ | ⟨-, scope⟩
  · rwa [unnamed]
  · rw [scope]
    exact confined.authenticate request.url

end ConfinedTo

end Session

namespace Client

/-- Whether the caller commits an auth state of its own. -/
def Action.placesState : Action → Bool
  | putState _ _ | commitState _ _ => true
  | _ => false

/-- What the store of a client held at the start or after one of these actions. -/
def Held (c : Client) (actions : List Action) (entry : Scope × Credentials) : Prop :=
  ∃ done, done <+: actions ∧ entry ∈ (c.after done).session.store.entries

variable {c : Client} {actions : List Action}

theorem Held.now {entry : Scope × Credentials}
    (member : entry ∈ (c.after actions).session.store.entries) :
    c.Held actions entry :=
  ⟨actions, List.prefix_refl actions, member⟩

theorem Held.later {entry : Scope × Credentials} (held : c.Held actions entry) (action : Action) :
    c.Held (actions ++ [action]) entry := by
  obtain ⟨done, before, member⟩ := held
  exact ⟨done, before.trans (List.prefix_append actions [action]), member⟩

/-- Executing a request leaves a confined session confined. -/
theorem execute_confined {registered : Scope × Credentials → Prop} (c : Client)
    (confined : c.session.ConfinedTo registered) (request : Http.Request)
    (script : Exchange.Script) :
    (c.execute request script).client.session.ConfinedTo registered := by
  unfold execute
  split
  · exact confined
  · apply Call.run_client (P := fun client => client.session.ConfinedTo registered)
    · intro call before
      rw [Call.advance_session]
      exact before.prepared call.current
    · exact confined

/-- What is done with a client leaves the states of its session confined, if the caller commits
    none. -/
theorem act_states {registered : Scope × Credentials → Prop} {c : Client}
    (confined : c.session.ConfinedTo registered) {action : Action}
    (plain : action.placesState = false) (host : Scope) (state : AuthState)
    (cached : (c.act action).session.cache.get? host = some state) :
    ∀ credentials, state.credentials = some credentials →
      ∃ scope, registered (scope, credentials) ∧ scope.Fits host := by
  cases action with
  | execute request script =>
    exact (execute_confined c confined request script).states host state cached
  | removeState other => exact (confined.remove other).states host state cached
  | forgetStates => cases cached
  | putState other new => cases plain
  | commitState other new => cases plain
  | close fault =>
    rw [act, close_client] at cached
    split at cached <;> exact confined.states host state cached
  | register scope credentials => exact confined.states host state cached
  | forgetCredentials => exact confined.states host state cached
  | setConfig config => exact confined.states host state cached
  | setLogger logger => exact confined.states host state cached

/-- The session of a client stays confined to what its store has held, whatever is done with the
    client, as long as the caller commits no states. -/
theorem after_confined (new : c.IsNew) (plain : ∀ action ∈ actions, action.placesState = false) :
    (c.after actions).session.ConfinedTo (c.Held actions) := by
  induction actions using List.reverseRecOn with
  | nil =>
    -- the only state that there can be, that of a proxy, has no credentials of its own
    obtain ⟨given, config, logger, created, accepted, built, rfl⟩ := new
    have starts := (create_madeFrom built).starts
    refine ⟨fun entry => Held.now, fun host state cached credentials own => ?_⟩
    rw [after_nil] at cached
    rw [starts.bareStates host state cached] at own
    cases own
  | append_singleton actions action ih =>
    have before := ih fun other member => plain other (List.mem_append_left _ member)
    -- states outlive the entries of the store, so what was held before counts as registered
    have kept := before.mono fun entry held => Held.later held action
    refine ⟨fun entry => Held.now, ?_⟩
    rw [after_concat]
    exact act_states kept (plain action (by simp))

end Client

/-! ## What is sent -/

/-- Whether the client authorizes a send, if it does, with credentials that were registered for a
    scope that fits a target. A field of the caller's own is not the client's. -/
def Call.Sending.Confines (s : Call.Sending) (registered : Scope × Credentials → Prop)
    (target : Scope) :
    Prop :=
  s.call.current.headers.contains Http.FieldName.authorization = false →
    ∀ field ∈ s.outgoing.headers.named Http.FieldName.authorization, ∃ entry, registered entry ∧
      entry.1.Fits target ∧ entry.2.IsEncodable ∧ field = Exchange.authorizationField entry.2

omit [Codecs] in
/-- Credentials that were registered for one host and port only are attached to no request for
    another place. -/
theorem Call.Sending.Confines.target_eq {s : Call.Sending} {registered : Scope × Credentials → Prop}
    {target : Scope} (confines : s.Confines registered target)
    (absent : s.call.current.headers.contains Http.FieldName.authorization = false)
    {field : Http.Field} (added : field ∈ s.outgoing.headers.named Http.FieldName.authorization)
    {host : String} {port : Int}
    (only : ∀ entry, registered entry → Exchange.authorizationField entry.2 = field →
      entry.1 = ⟨some host, some port⟩) : target = ⟨some host, some port⟩ := by
  obtain ⟨entry, held, fits, -, rfl⟩ := confines absent field added
  have place := only entry held rfl
  obtain ⟨hosts, ports⟩ := fits
  rw [place] at hosts ports
  simp only [reduceCtorEq, false_or] at hosts ports
  rw [hosts, ports]

namespace Client

variable {c : Client} {request : Http.Request} {script : Exchange.Script}

theorem sending_confined {registered : Scope × Credentials → Prop} {s : Call.Sending}
    (confined : c.session.ConfinedTo registered) (member : s ∈ c.sendings request script) :
    s.call.client.session.ConfinedTo registered := by
  refine sendings_forall (P := fun call => call.client.session.ConfinedTo registered)
    confined ?_ s member
  intro call before
  rw [Call.advance_session]
  exact before.prepared call.current

/-- The credentials that a client authorizes a send with were registered for a scope that fits that
    of its URL. -/
theorem sending_confines {registered : Scope × Credentials → Prop} {s : Call.Sending}
    (confined : c.session.ConfinedTo registered) (member : s ∈ c.sendings request script) :
    s.Confines registered s.outgoing.url.scope := by
  intro absent field added
  have prepared := (turn_of_sending member).2
  rw [prepare_authorization _ _ prepared, absent, if_neg Bool.false_ne_true, Option.mem_toList,
    Option.map_eq_some_iff] at added
  obtain ⟨credentials, presented, rfl⟩ := added
  obtain ⟨scope, known, fits⟩ :=
    (sending_confined confined member).credentials? s.call.current.url presented
  rw [prepare_url _ _ prepared]
  exact ⟨(scope, credentials), known, fits, prepare_encodable _ _ prepared absent presented, rfl⟩

/-! ## What goes astray -/

def strayCredentials : Credentials := ⟨"bob", "pw"⟩

/-- Credentials are registered for the scope of a URL. -/
def strayActions (url : Url) : List Action := [.register url.scope strayCredentials]

/-- A request that the caller does not authorize. -/
def plainRequest (url : Url) : Http.Request := .create "GET" url .empty .none

omit [Codecs] in
theorem plainRequest_unauthorized (url : Url) :
    (plainRequest url).headers.contains Http.FieldName.authorization = false := by
  have host : Http.sameName Http.FieldName.host Http.FieldName.authorization = false := by decide
  have length : Http.sameName Http.FieldName.contentLength Http.FieldName.authorization = false :=
    by decide
  have named := Http.leadingFields_named (Text.upper "GET") url .empty host length
  rw [Http.Headers.contains_eq_named]
  simpa [plainRequest, Http.Request.create, Http.Body.fields, Http.Headers.named,
    Http.Headers.empty]
    using named

/-- What a client with default settings holds once the credentials are registered. -/
theorem held_stray {created : Logged Client} (built : create .default none = .ok created)
    {url : Url} {entry : Scope × Credentials} (held : created.value.Held (strayActions url) entry) :
    entry = (.any, defaultCredentials .default) ∨ entry = (url.scope, strayCredentials) := by
  have atStart : ∀ entry ∈ created.value.session.store.entries,
      entry = (.any, defaultCredentials .default) := by
    cases built
    simp [startSession, CredentialStore.set, CredentialStore.empty, Session.empty]
  obtain ⟨done, before, member⟩ := held
  rcases List.prefix_cons_iff.mp before with rfl | ⟨rest, rfl, none⟩
  · exact .inl (atStart entry member)
  · rw [List.prefix_nil.mp none] at member
    exact (CredentialStore.mem_of_mem_set member).imp_left (atStart entry)

/-- A client with default settings sends the registered credentials to a URL whose host stands for a
    name. -/
theorem stray_sent {created : Logged Client} (built : create .default none = .ok created)
    {url : Url} (namedUrl : url.IsNamed) (script : Exchange.Script) :
    ∃ s ∈ (created.value.after (strayActions url)).sendings (plainRequest url) script,
      s.outgoing.url = url ∧
        s.call.current.headers.contains Http.FieldName.authorization = false ∧
          s.outgoing.headers.named Http.FieldName.authorization =
            [Exchange.authorizationField strayCredentials] := by
  let c := created.value.after (strayActions url)
  have isOpen : c.closed = false := by cases built; rfl
  have presented : c.session.credentials? url.scope = some strayCredentials := by
    have uncached : c.session.cache.get? url.scope = none := by cases built; rfl
    have registered : c.session.store.get? url.scope = some strayCredentials :=
      (CredentialStore.get?_set _ _ _ _).trans (if_pos rfl)
    simp [Session.credentials?, CredentialStore.find?, uncached, registered]
  have absent := plainRequest_unauthorized url
  have encodable : strayCredentials.IsEncodable :=
    Credentials.isEncodable_iff.mpr ⟨RawText.isEncodable_iff.mpr ⟨_, rfl⟩,
      RawText.isEncodable_iff.mpr ⟨_, rfl⟩⟩
  obtain ⟨outgoing, prepared⟩ :=
    (prepare_isOk_iff (plainRequest url).read rfl presented).mpr
      ⟨namedUrl, fun _ => encodable⟩
  refine ⟨_, first_sending _ isOpen prepared, prepare_url _ _ prepared, absent, ?_⟩
  rw [prepare_authorization _ _ prepared, Http.Request.read_headers, absent,
    if_neg Bool.false_ne_true]
  exact congrArg (fun credentials => (credentials.map Exchange.authorizationField).toList) presented

/-- Where the scope that a URL is taken for has another port than the server of the URL, credentials
    of the one are sent to the other. -/
theorem stray_unconfined {created : Logged Client} (built : create .default none = .ok created)
    {url : Url} (named : url.IsNamed) (differ : url.scope.port ≠ url.effectivePort?)
    (script : Exchange.Script) :
    ∃ s ∈ (created.value.after (strayActions url)).sendings (plainRequest url) script,
      s.outgoing.url = url ∧
        ¬ s.Confines (created.value.Held (strayActions url)) (Scope.ofServer url) := by
  obtain ⟨s, member, there, absent, added⟩ := stray_sent built named script
  refine ⟨s, member, there, fun confines => ?_⟩
  obtain ⟨entry, held, fits, -, field⟩ :=
    confines absent _ (by rw [added]; exact List.mem_singleton_self _)
  rcases held_stray built held with rfl | rfl
  · -- the credentials of every target are other ones
    exact absurd field (by decide +kernel)
  · rcases fits.2 with none | same
    · cases none
    · exact differ same

/-- Over every history of a client in which the caller commits no auth states, what the client adds
    to a request for a URL are credentials that were registered for a scope that fits the server of
    the URL, exactly if the scope of the URL, where its host stands for a name, has the port of this
    server. -/
theorem confines_iff (url : Url) :
    (∀ (c : Client) (actions : List Action) (request : Http.Request) (script : Exchange.Script),
      c.IsNew → (∀ action ∈ actions, action.placesState = false) →
        ∀ s ∈ (c.after actions).sendings request script, s.outgoing.url = url →
          s.Confines (c.Held actions) (Scope.ofServer url)) ↔
      (url.IsNamed → url.scope.port = url.effectivePort?) := by
  constructor
  · intro confines named
    by_contra differ
    obtain ⟨created, built⟩ : ∃ created, create .default none = .ok created := ⟨_, rfl⟩
    obtain ⟨s, member, there, astray⟩ :=
      stray_unconfined built named differ (.ofOutcomes 0 fun _ => .status 200)
    have plain : ∀ action ∈ strayActions url, action.placesState = false := by
      simp [strayActions, Action.placesState]
    exact astray (confines _ _ _ _ (isNew_of_create_default built) plain s member there)
  · intro same c actions request script new plain s member there
    obtain ⟨named, -⟩ := s.call.client.prepare_state s.call.current (turn_of_sending member).2
    rw [← prepare_url _ _ (turn_of_sending member).2, there] at named
    rw [Scope.ofServer_eq_scope (same named), ← there]
    exact sending_confines (after_confined new plain) member

end Client

end

namespace Client

/-- A URL without a port, whose scheme stands for port 443. -/
def secureSocketUrl : Url := ⟨"wss".toList, [], ['h'], none, ['/', 'a'], none, none⟩

attribute [local instance] Codecs.plain in
/-- Credentials of port 80 are sent to port 443. -/
theorem credentials_astray :
    ∃ created, create .default none = .ok created ∧
      strayActions secureSocketUrl = [.register ⟨some "h", some 80⟩ ⟨"bob", "pw"⟩] ∧
        Scope.ofServer secureSocketUrl = ⟨some "h", some 443⟩ ∧
          ∃ s ∈ (created.value.after (strayActions secureSocketUrl)).sendings
              (plainRequest secureSocketUrl) (.ofOutcomes 0 fun _ => .status 200),
            s.outgoing.url = secureSocketUrl ∧
              ¬ s.Confines (created.value.Held (strayActions secureSocketUrl))
                (Scope.ofServer secureSocketUrl) := by
  have port : secureSocketUrl.scope.port ≠ secureSocketUrl.effectivePort? := by decide +kernel
  have registered : secureSocketUrl.scope = ⟨some "h", some 80⟩ := by decide +kernel
  obtain ⟨created, built⟩ : ∃ created, create .default none = .ok created := ⟨_, rfl⟩
  refine ⟨created, built, ?_, by decide +kernel, stray_unconfined built ⟨_, rfl⟩ port _⟩
  rw [strayActions, registered]
  rfl

end Client

end Courier
