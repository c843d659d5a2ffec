import Courier.Client.Basic
import Courier.Client.Exchange
import Courier.Proofs.Names
import Courier.Proofs.Raw
import Courier.Proofs.Request
import Courier.Proofs.Session

/-!
# What is sent for a request

Preparing a request looks up the auth state of its target and builds the request again with fields
that name the client and present credentials. `prepare_request` is the request that comes out of it
and `prepare_client` the client afterwards; a call does not look at more of `Client.prepare` than
these, its records apart. A buffered request is refused for its host, for want of credentials, or
for credentials that cannot be presented (`Client.Refuses`). On the wire, user information in the
URL sets the credentials once more.
-/

namespace Courier

/-- The field that presents credentials; those without octets present nothing. -/
def Exchange.authorizationField (credentials : Credentials) : Http.Field :=
  ⟨Http.FieldName.authorization, Utf8.encode (credentials.basicHeader.toOption.getD [])⟩

/-- Whether a request can be sent with these credentials: its host stands for a name, and the
    credentials have octets, unless the request has a field of its own for them. -/
def Http.Request.IsSendable [Codecs] (request : Http.Request) (credentials : Credentials) : Prop :=
  request.url.IsNamed ∧
    (request.headers.contains Http.FieldName.authorization = false → credentials.IsEncodable)

namespace Client

variable (c : Client) (request : Http.Request)

/-- The field that names the client. -/
def agentField : Http.Field := ⟨Http.FieldName.userAgent, Utf8.ofString Config.userAgent⟩

/-- The header fields of a request that presents these credentials. -/
def presenting (credentials : Option Credentials) : Http.Headers :=
  let headers := request.headers.setDefault agentField
  match credentials with
  | some credentials => headers.set (Exchange.authorizationField credentials)
  | none => headers

/-- The request that is sent presenting these credentials. -/
def present (credentials : Option Credentials) : Except Failure Http.Request :=
  match credentials with
  | some credentials => do
    let _ ← credentials.basicHeader.mapError .unencodable
    outgoing request (presenting request (some credentials))
  | none => outgoing request (presenting request none)

theorem present_of_encodable {credentials : Credentials} {value : List Char}
    (header : credentials.basicHeader = .ok value) :
    present request (some credentials) =
      outgoing request ((request.headers.setDefault agentField).set
        ⟨Http.FieldName.authorization, Utf8.encode value⟩) := by
  simp only [present, presenting, Exchange.authorizationField, header]
  rfl

theorem present_of_unencodable {credentials : Credentials} {error : RawText.Unencodable}
    (failed : credentials.basicHeader = .error error) :
    present request (some credentials) = .error (.unencodable error) := by
  simp only [present, failed]
  rfl

variable {request} in
/-- What is sent presenting credentials is the request built again, and the credentials have
    octets. -/
theorem present_eq_ok {credentials : Option Credentials} {outgoing : Http.Request}
    (ok : present request credentials = .ok outgoing) :
    outgoing = request.rebuild request.url (presenting request credentials) ∧
      ∀ presented, credentials = some presented → presented.IsEncodable := by
  have built : ∀ headers, Client.outgoing request headers = .ok outgoing →
      outgoing = request.rebuild request.url headers := by
    intro headers ok
    unfold Client.outgoing at ok
    split at ok
    · exact (Except.ok.inj ok).symm
    · cases ok
  cases credentials with
  | none => exact ⟨built _ ok, nofun⟩
  | some credentials =>
    obtain ⟨value, header, ok⟩ := bind_eq_ok.mp ok
    refine ⟨built _ ok, ?_⟩
    rintro presented ⟨⟩
    obtain ⟨octets, encoded, -⟩ := map_eq_ok.mp (mapError_eq_ok.mp header)
    exact ⟨octets, encoded⟩

section

variable [Codecs]

/-- The credentials that a request presents when its target has this auth state, if it has no field
    for them of its own. -/
def presented? (state : AuthState) : Option Credentials :=
  if request.headers.contains Http.FieldName.authorization then none
  else (c.session.resolve state request.url.scope).value

variable {c request} in
/-- A request whose target has been given an auth state presents the credentials of the session. -/
theorem presented_of_authenticate {state : AuthState}
    (given : (c.session.authenticate request.url.scope).value.state = some state) :
    c.presented? request state =
      if request.headers.contains Http.FieldName.authorization then none
      else c.session.credentials? request.url.scope := by
  unfold presented?
  rw [Session.resolve_value, Session.credentials_of_authenticate given]

/-- The header fields that a request is sent with when its target has this auth state. -/
def outgoingFields (state : AuthState) : Http.Headers :=
  presenting request (c.presented? request state)

/-- The session that preparing a request leaves. -/
def preparedSession : Session :=
  match Scope.ofUrl request.url with
  | .error _ => c.session
  | .ok target => (c.session.authenticate target).value.session

theorem preparedSession_of_named {request : Http.Request} (named : request.url.IsNamed) :
    c.preparedSession request = (c.session.authenticate request.url.scope).value.session := by
  simp [preparedSession, Scope.ofUrl_of_named named]

theorem preparedSession_of_unnamed {request : Http.Request} (unnamed : ¬ request.url.IsNamed) :
    c.preparedSession request = c.session := by
  rcases Scope.ofUrl_cases request.url with ⟨error, -, given⟩ | ⟨named, -⟩
  · simp [preparedSession, given]
  · exact absurd named unnamed

theorem preparedSession_store : (c.preparedSession request).store = c.session.store := by
  unfold preparedSession
  split
  · rfl
  · exact Session.authenticate_store _ _

theorem prepare_client :
    (c.prepare request).value.1 = { c with session := c.preparedSession request } := by
  unfold prepare preparedSession
  cases Scope.ofUrl request.url with
  | error error => rfl
  | ok target =>
    dsimp only
    cases (c.session.authenticate target).value.state with
    | none => rfl
    | some state => simp only [apply_ite Logged.value, apply_ite Prod.fst, ite_self]

/-- The request that is sent when its target has this auth state. -/
def outgoingRequest (state : AuthState) : Except Failure Http.Request :=
  present request (c.presented? request state)

theorem prepare_request :
    (c.prepare request).value.2 =
      match Scope.ofUrl request.url with
      | .error error => .error (.name error)
      | .ok target =>
        match (c.session.authenticate target).value.state with
        | none => .error (.client (.noCredentials target))
        | some state => c.outgoingRequest request state := by
  have agent : Http.sameName agentField.name Http.FieldName.authorization = false := by decide
  have own : (request.headers.setDefault agentField).contains Http.FieldName.authorization =
      request.headers.contains Http.FieldName.authorization := by
    simp only [Http.Headers.contains_setDefault, agent, Bool.false_or]
  rcases Scope.ofUrl_cases request.url with ⟨error, -, unnamed⟩ | ⟨-, scope⟩
  · simp [prepare, unnamed]
  · simp only [prepare, scope]
    cases (c.session.authenticate request.url.scope).value.state with
    | none => rfl
    | some state =>
      simp only [← agentField.eq_def, own, outgoingRequest, presented?, Session.resolve_value,
        Session.authenticate_store]
      split
      · rfl
      · cases state.credentials <|> c.session.store.find? request.url.scope with
        | none => rfl
        | some credentials =>
          cases header : credentials.basicHeader with
          | error error =>
            rw [present_of_unencodable request header]
            simp only [Scheme.header, header]
            rfl
          | ok value =>
            rw [present_of_encodable request header]
            simp only [Scheme.header, header]
            rfl

/-- What a request is sent as presents no credentials that have no octets. -/
theorem outgoingRequest_eq_ok {state : AuthState} {outgoing : Http.Request}
    (ok : c.outgoingRequest request state = .ok outgoing) :
    outgoing = request.rebuild request.url (c.outgoingFields request state) ∧
      ∀ credentials, c.presented? request state = some credentials → credentials.IsEncodable :=
  present_eq_ok ok

/-- A prepared request is the caller's one built again, with the fields of the auth state that its
    target is given. -/
theorem prepare_state {outgoing : Http.Request} (h : (c.prepare request).value.2 = .ok outgoing) :
    request.url.IsNamed ∧
      ∃ state, (c.session.authenticate request.url.scope).value.state = some state ∧
        c.outgoingRequest request state = .ok outgoing := by
  rw [prepare_request] at h
  rcases Scope.ofUrl_cases request.url with ⟨error, -, unnamed⟩ | ⟨named, scope⟩
  · simp [unnamed] at h
  · rw [scope] at h
    dsimp only at h
    cases found : (c.session.authenticate request.url.scope).value.state with
    | none => simp [found] at h
    | some state =>
      rw [found] at h
      exact ⟨named, state, rfl, h⟩

/-- A prepared request is the caller's one built again, with the fields of its target's auth
    state. -/
theorem prepare_eq_ok {outgoing : Http.Request} (h : (c.prepare request).value.2 = .ok outgoing) :
    ∃ state, outgoing = request.rebuild request.url (c.outgoingFields request state) := by
  obtain ⟨-, state, -, ok⟩ := c.prepare_state request h
  exact ⟨state, (c.outgoingRequest_eq_ok request ok).1⟩

theorem prepare_url {outgoing : Http.Request} (h : (c.prepare request).value.2 = .ok outgoing) :
    outgoing.url = request.url := by
  obtain ⟨state, rfl⟩ := c.prepare_eq_ok request h
  rfl

theorem prepare_method {outgoing : Http.Request} (h : (c.prepare request).value.2 = .ok outgoing) :
    outgoing.method = Text.upper request.method := by
  obtain ⟨state, rfl⟩ := c.prepare_eq_ok request h
  rfl

/-- What keeps a buffered request from being sent. -/
inductive Refuses : Failure → Prop
  | unnamed {error : NameError} : request.url.name = .error error → Refuses (.name error)
  | unauthenticated : request.url.IsNamed →
      (c.session.authenticate request.url.scope).value.state = none →
      Refuses (.client (.noCredentials request.url.scope))
  | unencodable {state : AuthState} {credentials : Credentials} {error : RawText.Unencodable} :
      request.url.IsNamed → (c.session.authenticate request.url.scope).value.state = some state →
      c.presented? request state = some credentials → credentials.octets = .error error →
      Refuses (.unencodable error)

variable {c request} in
/-- A buffered request is prepared, or there is something that keeps it from being sent. -/
theorem prepare_cases (buffered : request.buffered = true) :
    (∃ outgoing, (c.prepare request).value.2 = .ok outgoing) ∨
      ∃ failure, c.Refuses request failure ∧ (c.prepare request).value.2 = .error failure := by
  have built : ∀ headers, Client.outgoing request headers =
      .ok (request.rebuild request.url headers) := fun _ => if_pos buffered
  rw [prepare_request]
  rcases Scope.ofUrl_cases request.url with ⟨error, unnamed, given⟩ | ⟨named, scope⟩
  · rw [given]
    exact .inr ⟨_, .unnamed unnamed, rfl⟩
  · rw [scope]
    dsimp only
    cases found : (c.session.authenticate request.url.scope).value.state with
    | none => exact .inr ⟨_, .unauthenticated named found, rfl⟩
    | some state =>
      dsimp only
      unfold outgoingRequest
      cases presented : c.presented? request state with
      | none => exact .inl ⟨_, built _⟩
      | some credentials =>
        cases header : credentials.basicHeader with
        | error error =>
          have failed := Credentials.basicHeader_eq_error.mp header
          exact .inr ⟨_, .unencodable named found presented failed, present_of_unencodable _ header⟩
        | ok value => exact .inl ⟨_, (present_of_encodable _ header).trans (built _)⟩

/-- A buffered request that cannot be prepared fails with what keeps it from being sent. -/
theorem prepare_eq_error {failure : Failure} (buffered : request.buffered = true)
    (h : (c.prepare request).value.2 = .error failure) : c.Refuses request failure := by
  rcases prepare_cases (c := c) buffered with ⟨outgoing, ok⟩ | ⟨failure', refuses, failed⟩
  · rw [ok] at h
    cases h
  · rw [failed, Except.error.injEq] at h
    exact h ▸ refuses

/-- What keeps a request from being sent is the failure that preparing it ends with. -/
theorem prepare_of_refuses {failure : Failure} (refuses : c.Refuses request failure) :
    (c.prepare request).value.2 = .error failure := by
  rw [prepare_request]
  cases refuses with
  | unnamed unnamed => rw [Scope.ofUrl_eq_error.mpr unnamed]
  | unauthenticated named lacks => simp only [Scope.ofUrl_of_named named, lacks]
  | unencodable named given presented failed =>
    simp only [Scope.ofUrl_of_named named, given, outgoingRequest, presented,
      present_of_unencodable _ (Credentials.basicHeader_eq_error.mpr failed)]

/-- The fields a request is sent with have those of the names it has, but for those that name the
    client and present credentials. -/
theorem outgoingFields_named (state : AuthState) {name : Octets}
    (agent : Http.sameName Http.FieldName.userAgent name = false)
    (authorization : Http.sameName Http.FieldName.authorization name = false) :
    (c.outgoingFields request state).named name = request.headers.named name := by
  have default : (request.headers.setDefault agentField).named name = request.headers.named name :=
    Http.Headers.named_setDefault agent
  unfold outgoingFields presenting
  simp only
  split
  · rw [Http.Headers.named_set authorization, default]
  · exact default

theorem outgoingFields_contains (state : AuthState) {name : Octets}
    (agent : Http.sameName Http.FieldName.userAgent name = false)
    (authorization : Http.sameName Http.FieldName.authorization name = false) :
    (c.outgoingFields request state).contains name = request.headers.contains name := by
  rw [Http.Headers.contains_eq_named, c.outgoingFields_named request state agent authorization,
    ← Http.Headers.contains_eq_named]

/-- The fields a request presents credentials with are its own, or else the one with those of the
    session, if it has any for the target. -/
theorem prepare_authorization {outgoing : Http.Request}
    (h : (c.prepare request).value.2 = .ok outgoing) :
    outgoing.headers.named Http.FieldName.authorization =
      if request.headers.contains Http.FieldName.authorization then
        request.headers.named Http.FieldName.authorization
      else ((c.session.credentials? request.url.scope).map Exchange.authorizationField).toList := by
  have host : Http.sameName Http.FieldName.host Http.FieldName.authorization = false := by decide
  have length : Http.sameName Http.FieldName.contentLength Http.FieldName.authorization = false :=
    by decide
  have agent : Http.sameName agentField.name Http.FieldName.authorization = false := by decide
  obtain ⟨-, state, given, ok⟩ := c.prepare_state request h
  rw [(c.outgoingRequest_eq_ok request ok).1, Http.Request.rebuild_named _ _ _ host length]
  unfold outgoingFields presenting
  rw [presented_of_authenticate given]
  cases own : request.headers.contains Http.FieldName.authorization with
  | true => simp only [if_true, Http.Headers.named_setDefault agent]
  | false =>
    simp only [Bool.false_eq_true, if_false]
    cases c.session.credentials? request.url.scope with
    | none => simp [Http.Headers.named_setDefault agent, Http.Headers.named_eq_nil own]
    | some credentials =>
      exact Http.Headers.named_set_self _ (Exchange.authorizationField credentials)

/-- What a prepared request presents has octets. -/
theorem prepare_encodable {outgoing : Http.Request} (h : (c.prepare request).value.2 = .ok outgoing)
    (absent : request.headers.contains Http.FieldName.authorization = false)
    {credentials : Credentials}
    (known : c.session.credentials? request.url.scope = some credentials) :
    credentials.IsEncodable := by
  obtain ⟨-, state, given, ok⟩ := c.prepare_state request h
  apply (c.outgoingRequest_eq_ok request ok).2
  rw [presented_of_authenticate given, absent, known]
  rfl

variable {c} in
/-- A request whose target has credentials can be prepared exactly if it can be sent with them. -/
theorem prepare_isOk_iff (buffered : request.buffered = true) {credentials : Credentials}
    (known : c.session.credentials? request.url.scope = some credentials) :
    (∃ outgoing, (c.prepare request).value.2 = .ok outgoing) ↔ request.IsSendable credentials := by
  constructor
  · rintro ⟨outgoing, prepared⟩
    exact ⟨(c.prepare_state request prepared).1,
      fun absent => c.prepare_encodable request prepared absent known⟩
  · rintro ⟨named, encodable⟩
    rcases prepare_cases (c := c) buffered with ok | ⟨failure, refuses, -⟩
    · exact ok
    · cases refuses with
      | unnamed unnamed => exact absurd unnamed named.name_ne_error
      | unauthenticated _ lacks =>
        rw [((c.session.unauthenticated_iff _).mp lacks).2] at known
        cases known
      | unencodable _ given presented failed =>
        rw [presented_of_authenticate given, known] at presented
        split at presented
        · cases presented
        · rename_i absent
          obtain ⟨octets, encoded⟩ := encodable (Bool.eq_false_iff.mpr absent)
          cases presented
          rw [encoded] at failed
          cases failed

variable {c} in
/-- A request that would present credentials without octets is refused for these. -/
theorem prepare_of_unencodable (named : request.url.IsNamed)
    (absent : request.headers.contains Http.FieldName.authorization = false)
    {credentials : Credentials}
    (known : c.session.credentials? request.url.scope = some credentials)
    {error : RawText.Unencodable} (failed : credentials.octets = .error error) :
    (c.prepare request).value.2 = .error (.unencodable error) := by
  cases given : (c.session.authenticate request.url.scope).value.state with
  | none =>
    rw [((c.session.unauthenticated_iff _).mp given).2] at known
    cases known
  | some state =>
    refine c.prepare_of_refuses request (.unencodable named given ?_ failed)
    rw [presented_of_authenticate given, absent, known]
    rfl

/-- A request whose host stands for a name is refused for want of credentials exactly if its target
    has no auth state and the session no credentials for it. -/
theorem prepare_unauthenticated_iff (buffered : request.buffered = true)
    (named : request.url.IsNamed) :
    (c.prepare request).value.2 = .error (.client (.noCredentials request.url.scope)) ↔
      c.session.cache.get? request.url.scope = none ∧
        c.session.credentials? request.url.scope = none := by
  rw [← Session.unauthenticated_iff]
  constructor
  · intro failed
    cases c.prepare_eq_error request buffered failed with
    | unauthenticated _ lacks => exact lacks
  · exact fun lacks => c.prepare_of_refuses request (.unauthenticated named lacks)

end

end Client

namespace Exchange

variable (request : Http.Request)

@[simp] theorem onWire_content : (onWire request).content = request.content := by
  simp only [onWire]; split <;> rfl

@[simp] theorem onWire_method : (onWire request).method = request.method := by
  simp only [onWire]; split <;> rfl

@[simp] theorem onWire_url : (onWire request).url = request.url := by
  simp only [onWire]; split <;> rfl

/-- A request on the wire has the names it has, but for the one that presents credentials. -/
theorem onWire_contains {name : Octets}
    (authorization : Http.sameName Http.FieldName.authorization name = false) :
    (onWire request).headers.contains name = request.headers.contains name := by
  simp only [onWire]
  split
  · rfl
  · have other : Http.sameName (basicField request.url.username request.url.password).name name =
      false :=
      authorization
    simp [other]

/-- The credentials in a URL. -/
def urlCredentials? (url : Url) : Option Credentials :=
  if url.username.isEmpty && url.password.isEmpty then none
  else some ⟨.ofList url.username, .ofList url.password⟩

/-- Characters are presented as they are in a URL. -/
theorem authorizationField_ofList (username password : List Char) :
    authorizationField ⟨.ofList username, .ofList password⟩ = basicField username password := by
  simp only [authorizationField, Credentials.basicHeader, Credentials.octets_ofList]
  rfl

/-- On the wire, the credentials in the URL stand in for any that the request presents. -/
theorem onWire_authorization :
    (onWire request).headers.named Http.FieldName.authorization =
      match urlCredentials? request.url with
      | some credentials => [authorizationField credentials]
      | none => request.headers.named Http.FieldName.authorization := by
  simp only [onWire, urlCredentials?]
  split
  · rfl
  · simp only [authorizationField_ofList]
    exact Http.Headers.named_set_self _ (basicField _ _)

end Exchange

end Courier
