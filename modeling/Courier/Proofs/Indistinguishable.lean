import Courier.Proofs.Contacts
import Courier.Proofs.Lockstep
import Courier.Proofs.Passwords
import Mathlib.Data.List.Forall2

/-!
# Clients with other passwords

Two settings are the same but for their passwords if they are the same when masked. The clients that
they make cannot be told apart by what their calls return and raise, log and wait for, nor by what
is shown of them, if the credentials that they present are the same or have octets: the requests
that they send differ at most in the values of the fields that the clients authorize them with.
Credentials without octets are told by the error that they are met with, so the condition cannot be
left out (`create_indistinguishable_iff`).
-/

namespace Courier

/-- The settings with an empty password in the place of any. -/
def ProxyConfig.masked (p : ProxyConfig) : ProxyConfig :=
  { p with password := p.password.map fun _ => "" }

/-- The settings with an empty password in the place of any, of the proxy as well. -/
def Config.masked (c : Config) : Config :=
  { c with password := c.password.map fun _ => "", proxy := c.proxy.map ProxyConfig.masked }

/-- The client without its passwords, and without the fields that it presents to its proxy. -/
def Client.concealed (c : Client) : Client :=
  { c with
    config := c.config.masked
    session := c.session.concealed
    proxy := c.proxy.map fun endpoint => { endpoint with headers := .empty } }

/-- What does not look at passwords is the same of clients that are the same but for these. -/
theorem Client.eq_of_concealed {α : Type} (f : Client → α)
    (blind : ∀ c : Client, f c.concealed = f c)
    {c c' : Client} (same : c'.concealed = c.concealed) : f c' = f c := by
  rw [← blind c', same, blind c]

theorem ProxyConfig.hidden_masked (password : Option RawText) :
    hidden (password.map fun _ => "") = hidden password := by
  unfold hidden
  rw [Option.isSome_map]

theorem ProxyConfig.shown_masked (p : ProxyConfig) : p.masked.shown = p.shown := by
  have password : hidden p.masked.password = hidden p.password := hidden_masked p.password
  unfold shown
  rw [password]
  rfl

theorem Config.shown_masked (c : Config) : c.masked.shown = c.shown := by
  unfold shown masked
  simp only [ProxyConfig.hidden_masked]
  cases c.proxy with
  | none => rfl
  | some proxy => simp only [Option.map_some, ProxyConfig.shown_masked]

/-- Proxies that are the same but for passwords. -/
theorem ProxyConfig.eq_of_masked {p p' : ProxyConfig} (same : p'.masked = p.masked) :
    p'.host = p.host ∧ p'.port = p.port ∧ p'.username = p.username :=
  ⟨(ProxyConfig.mk.inj same).1, (ProxyConfig.mk.inj same).2.1, (ProxyConfig.mk.inj same).2.2.1⟩

/-- Outcomes that are told as the same are the same error, or values that are told as the same. -/
theorem cases_of_map_eq {ε α β γ : Type} {f : α → γ} {g : β → γ} {x : Except ε α} {y : Except ε β}
    (same : y.map g = x.map f) :
    (∃ error, x = .error error ∧ y = .error error) ∨ ∃ a b, x = .ok a ∧ y = .ok b ∧ g b = f a := by
  cases x with
  | error error =>
    cases y with
    | error error' => exact .inl ⟨error, rfl, congrArg Except.error (Except.error.inj same)⟩
    | ok b => cases same
  | ok a =>
    cases y with
    | error error' => cases same
    | ok b => exact .inr ⟨a, b, rfl, rfl, Except.ok.inj same⟩

/-- Whether the passwords of settings may be exchanged: the credentials of the proxy are
    interchangeable and, if a client can be built, so are its own. -/
structure Config.Interchangeable [Codecs] (config config' : Config)
    (logger : Option String) : Prop where
  proxy : ∀ p p' username, config.proxy = some p → config'.proxy = some p' →
    p.username = some username →
    (Client.proxyCredentials p username).Interchangeable (Client.proxyCredentials p' username)
  own : (∃ created, Client.create config logger = .ok created) →
    (Client.defaultCredentials config).Interchangeable (Client.defaultCredentials config')

theorem error_iff_of_map_eq {ε α β : Type} {f : α → β} {x y : Except ε α} (same : y.map f = x.map f)
    {error : ε} : y = .error error ↔ x = .error error := by
  rcases cases_of_map_eq same with ⟨error', rfl, rfl⟩ | ⟨a, b, rfl, rfl, -⟩
  · rfl
  · exact iff_of_false nofun nofun

namespace Client

/-! ## Building clients -/

theorem defaultCredentials_masked {config config' : Config}
    (same : config'.masked = config.masked) :
    (defaultCredentials config').username = (defaultCredentials config).username := by
  have usernames : config'.username = config.username := (Config.mk.inj same).1
  unfold defaultCredentials
  rw [usernames]
  cases config.username with
  | none => rfl
  | some username =>
    simp only
    split <;> rfl

theorem startSession_concealed {config config' : Config}
    (same : (defaultCredentials config').concealed = (defaultCredentials config).concealed) :
    (startSession config').concealed = (startSession config).concealed := by
  have stores : ∀ config : Config, (startSession config).concealed =
      { Session.empty with store :=
        CredentialStore.empty.set .any (defaultCredentials config).concealed } :=
    fun config => congrArg (fun store => Session.mk store _ _)
      (CredentialStore.empty.concealed_set _ _)
  rw [stores, stores, same]

section

variable {session session' : Session} {p p' : ProxyConfig} {username : RawText}

theorem seedProxy_concealed (same : p'.masked = p.masked)
    (credentials : (proxyCredentials p' username).concealed =
      (proxyCredentials p username).concealed)
    (sessions : session'.concealed = session.concealed) :
    (seedProxy session' p' username).value.concealed =
    (seedProxy session p username).value.concealed ∧
      (seedProxy session' p' username).records = (seedProxy session p username).records := by
  obtain ⟨host, port, -⟩ := ProxyConfig.eq_of_masked same
  have seeded : ∀ (session : Session) (p : ProxyConfig),
    (seedProxy session p username).value.concealed =
      { store := session.concealed.store.set (.of (some p.host) (some p.port))
          (proxyCredentials p username).concealed
        cache := session.concealed.cache.set (.of (some p.host) (some p.port))
          ⟨session.concealed.nextSerial, .basic, none⟩
        nextSerial := session.concealed.nextSerial + 1 } := by
    intro session p
    simp only [seedProxy, Session.concealed, Session.newState, AuthCache.put,
      CredentialStore.concealed_set, AuthCache.concealed_set]
    rfl
  refine ⟨?_, ?_⟩
  · rw [seeded, seeded, sessions, credentials, host, port]
  · unfold seedProxy
    rw [host, port]
    rfl

variable [Codecs]

/-- The endpoint of a proxy without the fields that are presented to it. -/
theorem endpoint_concealed (url : List Char) (headers headers' : Http.Headers) :
    (ProxyEndpoint.create url headers').map (fun endpoint => { endpoint with headers := .empty }) =
      (ProxyEndpoint.create url headers).map fun endpoint =>
      { endpoint with headers := .empty } := by
  unfold ProxyEndpoint.create
  cases Url.read url with
  | error error => rfl
  | ok url =>
    simp only [bind, Except.bind]
    split
    · rfl
    · cases url.withoutUserinfo <;> rfl

/-- Whether two proxies are connected in the same way, but for passwords, for sessions that are the
    same but for them, or neither is for the same reason. -/
def ConnectedAlike (session session' : Session)
    (result result' : Except CreateError (Logged (Session × Option ProxyEndpoint))) : Prop :=
  (∃ error, result = .error error ∧ result' = .error error) ∨
    ∃ connected connected', result = .ok connected ∧ result' = .ok connected' ∧
      (connected'.value.2.map fun endpoint => { endpoint with headers := .empty }) =
        (connected.value.2.map fun endpoint => { endpoint with headers := .empty }) ∧
      (session'.concealed = session.concealed →
        connected'.value.1.concealed = connected.value.1.concealed ∧
          connected'.records = connected.records)

/-- With interchangeable credentials a proxy is connected in the same way, but for passwords, or not
    at all for the same reason. -/
theorem connectProxy_alike (same : p'.masked = p.masked)
    (interchangeable : ∀ username, p.username = some username →
      (proxyCredentials p username).Interchangeable (proxyCredentials p' username)) :
    ConnectedAlike session session' (connectProxy session (some p))
      (connectProxy session' (some p')) := by
  obtain ⟨host, port, usernames⟩ := ProxyConfig.eq_of_masked same
  have url : p'.url = p.url := by rw [ProxyConfig.url, ProxyConfig.url, host, port]
  unfold connectProxy
  simp only [url, usernames]
  cases named : p.username with
  | none =>
    cases made : ProxyEndpoint.create p.url.toList .empty with
    | error error => exact .inl ⟨.url error, rfl, rfl⟩
    | ok endpoint => exact .inr ⟨_, _, rfl, rfl, rfl, fun sessions => ⟨sessions, rfl⟩⟩
  | some username =>
    have credentials := (interchangeable username named).concealed rfl
    have seeded := fun sessions : session'.concealed = session.concealed =>
      seedProxy_concealed same credentials sessions
    simp only
    rcases Credentials.basicHeader_alike credentials with
      ⟨error, failed, failed'⟩ | ⟨value, value', header, header'⟩
    · rw [failed, failed']
      exact .inl ⟨.unencodable error, rfl, rfl⟩
    · rw [header, header']
      rcases cases_of_map_eq (endpoint_concealed p.url.toList
          ⟨[⟨Http.FieldName.proxyAuthorization, Utf8.encode value⟩]⟩
          ⟨[⟨Http.FieldName.proxyAuthorization, Utf8.encode value'⟩]⟩) with
        ⟨error, failed, failed'⟩ | ⟨endpoint, endpoint', made, made', endpoints⟩
      · refine .inl ⟨.url error, ?_, ?_⟩
        · simp only [Except.mapError, bind, Except.bind, failed]
        · simp only [Except.mapError, bind, Except.bind, failed']
      · refine .inr ⟨⟨((seedProxy session p username).value, some endpoint), _⟩,
          ⟨((seedProxy session' p' username).value, some endpoint'), _⟩, ?_, ?_, ?_, seeded⟩
        · simp only [Except.mapError, bind, Except.bind, made]
          rfl
        · simp only [Except.mapError, bind, Except.bind, made']
          rfl
        · exact congrArg some endpoints

end

section

variable {config config' : Config} (same : config'.masked = config.masked)

include same

theorem proxy_masked :
    (config.proxy = none ∧ config'.proxy = none) ∨
      ∃ p p', config.proxy = some p ∧ config'.proxy = some p' ∧ p'.masked = p.masked := by
  have proxies : config'.proxy.map ProxyConfig.masked = config.proxy.map ProxyConfig.masked :=
    congrArg Config.proxy same
  cases proxied : config.proxy with
  | none =>
    rw [proxied, Option.map_none, Option.map_eq_none_iff] at proxies
    exact .inl ⟨rfl, proxies⟩
  | some p =>
    rw [proxied, Option.map_some, Option.map_eq_some_iff] at proxies
    obtain ⟨p', proxied', masked⟩ := proxies
    exact .inr ⟨p, p', rfl, proxied', masked⟩

theorem registered_masked :
    (config'.proxy.bind (·.registration?)).toList.map Prod.fst =
      (config.proxy.bind (·.registration?)).toList.map Prod.fst := by
  rcases proxy_masked same with ⟨direct, direct'⟩ | ⟨p, p', proxied, proxied', masked⟩
  · rw [direct, direct']
  · obtain ⟨host, port, username⟩ := ProxyConfig.eq_of_masked masked
    rw [proxied, proxied', Option.bind_some, Option.bind_some]
    unfold ProxyConfig.registration?
    rw [host, port, username]
    cases p.username <;> rfl

variable [Codecs]

/-- Settings whose passwords may be exchanged make clients that are the same but for passwords, or
    none for the same reason. -/
theorem create_alike {logger : Option String}
    (interchangeable : config.Interchangeable config' logger) :
    (∃ error, create config logger = .error error ∧ create config' logger = .error error) ∨
      ∃ created created', create config logger = .ok created ∧
        create config' logger = .ok created' ∧
        created'.value.concealed = created.value.concealed ∧
          created'.records = created.records := by
  have connects : ConnectedAlike (startSession config) (startSession config')
      (connectProxy (startSession config) config.proxy)
      (connectProxy (startSession config') config'.proxy) := by
    rcases proxy_masked same with ⟨direct, direct'⟩ | ⟨p, p', proxied, proxied', masked⟩
    · rw [direct, direct']
      exact .inr ⟨_, _, rfl, rfl, rfl, fun sessions => ⟨sessions, rfl⟩⟩
    · rw [proxied, proxied']
      exact connectProxy_alike masked fun username named =>
        interchangeable.proxy p p' username proxied proxied' named
  rcases connects with ⟨error, failed, failed'⟩ | ⟨connected, connected', made, made',
    endpoints, sessions⟩
  · exact .inl ⟨error, by rw [create, failed]; rfl, by rw [create, failed']; rfl⟩
  · refine .inr ⟨_, _, by rw [create, made]; rfl, by rw [create, made']; rfl, ?_⟩
    have own := interchangeable.own ⟨_, by rw [create, made]; rfl⟩
    obtain ⟨session, records⟩ :=
      sessions (startSession_concealed (own.concealed (defaultCredentials_masked same)))
    have retries : config'.retryCount = config.retryCount := by
      rw [Config.retryCount, Config.retryCount, (Config.mk.inj same).2.2.2.2.1]
    have interval : config'.retryInterval = config.retryInterval := (Config.mk.inj same).2.2.2.2.2.1
    refine ⟨?_, records⟩
    simp only [concealed, same, session, endpoints, retries, interval]

omit same in
/-- A request of a new client, not to its proxy, fails for want of octets exactly if its credentials
    have none. -/
theorem execute_unencodable_iff {logger : Option String} {created : Logged Client}
    (built : create config logger = .ok created) {port : Int}
    (apart : (portRequest port).url.scope ∉
      (config.proxy.bind (·.registration?)).toList.map Prod.fst)
    (script : Exchange.Script) (error : RawText.Unencodable) :
    ((created.value.execute (portRequest port) script).result = .error (.unencodable error) ∧
        (created.value.execute (portRequest port) script).sends = 0) ↔
      (defaultCredentials config).octets = .error error := by
  have isOpen := (create_madeFrom built).isOpen
  have known := create_credentials? built apart
  have named : (portRequest port).read.url.IsNamed := ⟨_, rfl⟩
  cases octets : (defaultCredentials config).octets with
  | error error' =>
    have refused := prepare_of_unencodable (portRequest port).read named rfl known octets
    obtain ⟨failed, silent, -⟩ := execute_of_refused_start script isOpen refused
    rw [requests_execute, List.map_eq_nil_iff] at silent
    rw [failed, sends_execute, silent]
    simp
  | ok encoded =>
    obtain ⟨outgoing, prepared⟩ := (prepare_isOk_iff (portRequest port).read rfl known).mpr
      ⟨named, fun _ => ⟨encoded, octets⟩⟩
    have sent := List.length_pos_of_mem (first_sending script isOpen prepared)
    rw [sends_execute]
    refine iff_of_false (fun ends => ?_) nofun
    have none := ends.2
    omega

end

end Client

/-- What is shown of credentials, by scope. -/
def CredentialStore.shown (s : CredentialStore) : List (Scope × String) :=
  s.entries.map fun entry => (entry.1, entry.2.shown)

/-- What is shown of states, by host. -/
def AuthCache.shown (c : AuthCache) : List (Scope × String) :=
  c.entries.map fun entry => (entry.1, entry.2.shown)

theorem CredentialStore.shown_concealed (s : CredentialStore) : s.concealed.shown = s.shown := by
  simp only [shown, concealed, List.map_map, Function.comp_def, Credentials.shown_concealed]

theorem AuthCache.shown_concealed (c : AuthCache) : c.concealed.shown = c.shown := by
  simp only [shown, concealed, List.map_map, Function.comp_def, AuthState.shown_concealed]

/-! ## Calls -/

/-- The answer with the request that got it concealed. -/
def Answer.concealed (answer : Answer) : Answer :=
  { answer with request := answer.request.concealed }

theorem Verdict.result_concealed (verdict : Verdict) {sent sent' : Http.Request}
    (same : sent'.concealed = sent.concealed) :
    (verdict.result sent').map (Except.map Answer.concealed) =
      (verdict.result sent).map (Except.map Answer.concealed) := by
  cases verdict with
  | again => rfl
  | follow url => rfl
  | answer response =>
    simp only [Verdict.result, Option.map_some, Except.map, Answer.concealed, same]
  | fail failure => rfl

/-- Events that are the same, or sends of requests that are the same when concealed. A request that
    has a field of authorization of its own (`own`) is sent as the very same one, and where the URL
    has credentials the very same one reaches the transport. -/
inductive Event.Alike (own : Bool) : Event → Event → Prop
  | record (entry : Log.Record) : Alike own (.record entry) (.record entry)
  | wait (interval : Number) : Alike own (.wait interval) (.wait interval)
  | send {sent sent' : Http.Request} :
      sent'.concealed = sent.concealed →
      (Exchange.onWire sent').concealed = (Exchange.onWire sent).concealed →
      (own = true → sent' = sent) →
      ((Exchange.urlCredentials? sent.url).isSome = true →
        Exchange.onWire sent' = Exchange.onWire sent) →
      Alike own (.send sent) (.send sent')

theorem Event.Alike.refl (own : Bool) (event : Event) : Alike own event event := by
  cases event with
  | record entry => exact .record entry
  | wait interval => exact .wait interval
  | send request => exact .send rfl rfl (fun _ => rfl) fun _ => rfl

theorem Event.forall₂_refl (own : Bool) (events : List Event) :
    List.Forall₂ (Alike own) events events :=
  List.forall₂_same.mpr fun event _ => .refl own event

namespace Call

/-- Runs that are the same but for what the client authorizes their requests with. -/
structure Run.Alike (own : Bool) (run run' : Run) : Prop where
  request : run'.request = run.request
  sends : run'.sends = run.sends
  events : List.Forall₂ (Event.Alike own) run.events run'.events
  result : run'.result.map Answer.concealed = run.result.map Answer.concealed
  ownResult : own = true → run'.result = run.result

/-- Calls that are the same but for the passwords of their clients. -/
structure Veiled (call call' : Call) : Prop where
  client : call'.client.concealed = call.client.concealed
  origin : call'.origin = call.origin
  current : call'.current = call.current
  context : call'.context = call.context

/-- Steps that are the same but for what the client authorizes the request with. -/
structure Step.Alike (own : Bool) (step step' : Step) : Prop where
  events : List.Forall₂ (Event.Alike own) step.events step'.events
  call : step.call.Veiled step'.call
  result : step'.result.map (Except.map Answer.concealed) =
    step.result.map (Except.map Answer.concealed)
  ownResult : own = true → step'.result = step.result

variable {call call' : Call}

namespace Veiled

theorem session (veiled : call.Veiled call') :
    call'.client.session.concealed = call.client.session.concealed := by
  have sessions := congrArg Client.session veiled.client
  exact sessions

theorem inStep (veiled : call.Veiled call') : call.InStep call' where
  origin := veiled.origin
  current := veiled.current
  context := veiled.context
  logger := Client.eq_of_concealed Client.logger (fun _ => rfl) veiled.client
  transportRetry := Client.eq_of_concealed Client.transportRetry (fun _ => rfl) veiled.client
  statusRetry := Client.eq_of_concealed Client.statusRetry (fun _ => rfl) veiled.client
  redirects := Client.eq_of_concealed Client.redirects (fun _ => rfl) veiled.client
  maxRedirects := Client.eq_of_concealed (·.config.maxRedirects) (fun _ => rfl) veiled.client

theorem settle (veiled : call.Veiled call') (verdict : Verdict) :
    (call.settle verdict).Veiled (call'.settle verdict) := by
  have stepped := veiled.inStep.settle verdict
  refine ⟨?_, stepped.origin, stepped.current, stepped.context⟩
  rw [settle_client, settle_client]
  exact veiled.client

end Veiled

end Call

section

variable [Codecs]

namespace Call

variable {call call' : Call}

namespace Veiled

theorem preparedClient (veiled : call.Veiled call') :
    call'.preparedClient.concealed = call.preparedClient.concealed := by
  have sessions := Client.preparedSession_concealed call.current veiled.session
  have clients := congrArg (fun client : Client =>
    { client with session := (call.client.preparedSession call.current).concealed }) veiled.client
  simp only [Call.preparedClient, Client.concealed, veiled.current, sessions] at clients ⊢
  exact clients

theorem afterSend (veiled : call.Veiled call') (cookies : Http.CookieJar) :
    (call.afterSend cookies).Veiled (call'.afterSend cookies) where
  client := congrArg (fun client : Client => { client with cookies }) veiled.preparedClient
  origin := veiled.origin
  current := veiled.current
  context := congrArg RetryContext.countSend veiled.context

variable {script : Exchange.Script} {own : Bool}

/-- Calls that are the same but for passwords and cannot prepare their requests end in the same
    way. -/
theorem advance_of_refused (veiled : call.Veiled call') {failure : Failure}
    (refused : (call.client.prepare call.current).value.2 = .error failure)
    (refused' : (call'.client.prepare call'.current).value.2 = .error failure) :
    (call.advance script).Alike own (call'.advance script) := by
  have results : (call'.advance script).result = (call.advance script).result := by
    rw [(Call.advance_of_refused refused).1, (Call.advance_of_refused refused').1]
  refine ⟨?_, ?_, by rw [results], fun _ => results⟩
  · rw [events_advance, events_advance, deeds_of_refused refused, deeds_of_refused refused',
      veiled.current, Client.prepare_records_alike call.current veiled.session]
    exact Event.forall₂_refl own _
  · rw [(Call.advance_of_refused refused).2, (Call.advance_of_refused refused').2]
    exact ⟨veiled.preparedClient, veiled.origin, veiled.current, veiled.context⟩

variable (blind : ∀ n cookies wire, script n cookies wire.concealed = script n cookies wire)

include blind in
/-- Calls that are the same but for passwords send requests that are the same when concealed, and go
    on in the same way, if the script is blind to what authorizes a request. -/
theorem advance_of_sent (veiled : call.Veiled call') {outgoing outgoing' : Http.Request}
    (prepared : (call.client.prepare call.current).value.2 = .ok outgoing)
    (prepared' : (call'.client.prepare call'.current).value.2 = .ok outgoing')
    (same : outgoing'.concealed = outgoing.concealed) (very : own = true → outgoing' = outgoing) :
    (call.advance script).Alike own (call'.advance script) := by
  obtain ⟨result, next⟩ := Call.advance_of_sent script prepared
  obtain ⟨result', next'⟩ := Call.advance_of_sent script prepared'
  obtain ⟨wires, urls⟩ := Exchange.onWire_alike same
  obtain ⟨method, url⟩ := Http.Request.line_of_concealed wires
  let s : Sending := ⟨call, outgoing⟩
  let s' : Sending := ⟨call', outgoing'⟩
  -- the wires differ only in what the script is blind to
  have sent : s'.sent script = s.sent script := by
    have cookies : call'.client.cookies = call.client.cookies :=
      Client.eq_of_concealed Client.cookies (fun _ => rfl) veiled.client
    simp only [s, s', Sending.sent, Sending.wire, veiled.context, cookies]
    rw [← blind, wires, blind]
  have after : (s.after script).Veiled (s'.after script) := by
    unfold Sending.after
    rw [sent]
    exact veiled.afterSend _
  have verdict : s'.verdict script = s.verdict script := by
    unfold Sending.verdict
    rw [sent]
    exact after.inStep.verdict _
  refine ⟨?_, ?_, ?_, ?_⟩
  · have received : ((s'.after script).receive s'.wire (s.sent script).given).events =
        ((s.after script).receive s.wire (s.sent script).given).events :=
      after.inStep.receive method url _
    rw [events_advance, events_advance, deeds_of_sent script prepared,
      deeds_of_sent script prepared',
      veiled.current, Client.prepare_records_alike call.current veiled.session, sent, received]
    exact List.rel_append (Event.forall₂_refl own _)
      (.cons (.send same wires very urls) (Event.forall₂_refl own _))
  · rw [next, next', verdict]
    exact after.settle _
  · rw [result, result', verdict]
    exact Verdict.result_concealed _ wires
  · intro ownField
    rw [result, result', verdict, Sending.wire, Sending.wire, very ownField]

include blind in
/-- Calls that are the same but for passwords take steps that are the same but for what authorizes a
    request. -/
theorem advance (veiled : call.Veiled call')
    (authorizes : call.current.headers.contains Http.FieldName.authorization = own) :
    (call.advance script).Alike own (call'.advance script) := by
  obtain ⟨prepares, authorized⟩ := Client.prepare_alike call.current veiled.session
  have prepared_eq : (call'.client.prepare call'.current).value.2 =
    (call'.client.prepare call.current).value.2 := by
    rw [veiled.current]
  rcases cases_of_map_eq prepares with
    ⟨failure, refused, refused'⟩ | ⟨outgoing, outgoing', prepared, prepared', same⟩
  · exact veiled.advance_of_refused refused (prepared_eq.trans refused')
  · refine veiled.advance_of_sent blind prepared (prepared_eq.trans prepared') same fun ownField =>
      ?_
    have equal := authorized (authorizes.trans ownField)
    rw [prepared, prepared'] at equal
    exact Except.ok.inj equal

end Veiled

variable {script : Exchange.Script} {own : Bool}

/-- Following redirects neither adds a field of authorization nor takes one away. -/
theorem authorizes_advance (call : Call) :
    (call.advance script).call.current.headers.contains Http.FieldName.authorization =
      call.current.headers.contains Http.FieldName.authorization := by
  rcases call.advance_current script with same | ⟨url, followed⟩
  · rw [same]
  · rw [followed, Http.Headers.contains_eq_named,
      Redirect.followUp_named _ _ (by decide) (by decide), ← Http.Headers.contains_eq_named]

/-- Runs of calls that are the same but for passwords are the same but for what authorizes their
    requests. -/
theorem run_alike
    (blind : ∀ n cookies wire, script n cookies wire.concealed = script n cookies wire) (fuel : Nat)
    (veiled : call.Veiled call')
    (authorizes : call.current.headers.contains Http.FieldName.authorization = own) :
    (call.run script fuel).Alike own (call'.run script fuel) ∧
      (call'.run script fuel).client.concealed = (call.run script fuel).client.concealed := by
  induction fuel generalizing call call' with
  | zero =>
    refine ⟨⟨veiled.origin, ?_, .nil, rfl, fun _ => rfl⟩, veiled.client⟩
    simp only [run, finish, veiled.context]
  | succ fuel ih =>
    have steps := veiled.advance blind authorizes
    have next := steps.call
    rw [run_succ, run_succ]
    cases ended : (call.advance script).result with
    | some result =>
      obtain ⟨result', ended', same⟩ : ∃ result', (call'.advance script).result = some result' ∧
          result'.map Answer.concealed = result.map Answer.concealed := by
        have results := steps.result
        rwa [ended, Option.map_some, Option.map_eq_some_iff] at results
      rw [ended']
      refine ⟨⟨next.origin, ?_, steps.events, same, ?_⟩, next.client⟩
      · simp only [finish, next.context]
      · intro ownField
        have equal := steps.ownResult ownField
        rw [ended, ended'] at equal
        exact Option.some.inj equal
    | none =>
      have going : (call'.advance script).result = none := by
        have results := steps.result
        rwa [ended, Option.map_none, Option.map_eq_none_iff] at results
      rw [going]
      obtain ⟨rest, client⟩ := ih next (call.authorizes_advance.trans authorizes)
      exact ⟨{ rest with events := List.rel_append steps.events rest.events }, client⟩

end Call

/-! ## Clients -/

/-- Calls to make one after the other, over schedules. -/
def Visit.ofSchedules (calls : List (Http.Request × Exchange.Schedule)) : List Visit :=
  calls.map fun call => ⟨call.1, call.2.script⟩

theorem Visit.blind_ofSchedules (calls : List (Http.Request × Exchange.Schedule)) :
    ∀ v ∈ Visit.ofSchedules calls, ∀ n cookies wire,
      v.script n cookies wire.concealed = v.script n cookies wire := by
  intro v member n cookies wire
  obtain ⟨call, -, rfl⟩ := List.mem_map.mp member
  exact Exchange.complete_concealed wire _ cookies _

namespace Client

variable {c c' : Client}

/-- A run is of the request of its call, with the same fields. -/
theorem execute_request_headers (c : Client) (request : Http.Request) (script : Exchange.Script) :
    (c.execute request script).request.headers = request.headers := by
  unfold execute
  split
  · rfl
  · rw [Call.run_request]
    rfl

/-- Clients that are the same but for passwords execute a request in runs that are. -/
theorem execute_alike (same : c'.concealed = c.concealed) (request : Http.Request)
    {script : Exchange.Script}
    (blind : ∀ n cookies wire, script n cookies wire.concealed = script n cookies wire) :
    (c.execute request script).Alike (request.headers.contains Http.FieldName.authorization)
        (c'.execute request script) ∧
      (c'.execute request script).client.concealed =
      (c.execute request script).client.concealed := by
  have closed : c'.closed = c.closed := eq_of_concealed Client.closed (fun _ => rfl) same
  have maxSends : c'.maxSends = c.maxSends := eq_of_concealed Client.maxSends (fun _ => rfl) same
  have retryCount : c'.config.retryCount = c.config.retryCount :=
    eq_of_concealed (·.config.retryCount) (fun _ => rfl) same
  unfold execute
  rw [closed, maxSends]
  split
  · exact ⟨⟨rfl, rfl, .nil, rfl, fun _ => rfl⟩, same⟩
  · have veiled : (Call.start c request).Veiled (Call.start c' request) :=
      ⟨same, rfl, rfl, congrArg RetryContext.start retryCount⟩
    exact Call.run_alike blind _ veiled rfl

/-- Clients that cannot be told apart by calls, but for what they authorize requests with. -/
structure Indistinguishable (c c' : Client) (visits : List Visit) : Prop where
  runs : List.Forall₂
    (fun run run' => run.Alike (run.request.headers.contains Http.FieldName.authorization) run')
    (c.runs visits) (c'.runs visits)
  credentials : (c'.afterVisits visits).session.store.shown =
    (c.afterVisits visits).session.store.shown
  states : (c'.afterVisits visits).session.cache.shown = (c.afterVisits visits).session.cache.shown

/-- Clients that are the same but for passwords cannot be told apart by calls over scripts that are
    blind to what authorizes a request. -/
theorem indistinguishable_of_concealed (visits : List Visit)
    (blind : ∀ v ∈ visits, ∀ n cookies wire,
      v.script n cookies wire.concealed = v.script n cookies wire)
    (same : c'.concealed = c.concealed) : Indistinguishable c c' visits := by
  induction visits generalizing c c' with
  | nil =>
    exact
      { runs := .nil
        credentials :=
          eq_of_concealed (·.session.store.shown) (fun c => c.session.store.shown_concealed) same
        states :=
          eq_of_concealed (·.session.cache.shown) (fun c => c.session.cache.shown_concealed) same }
  | cons v rest ih =>
    obtain ⟨first, next⟩ := execute_alike same v.request (blind v List.mem_cons_self)
    obtain ⟨runs, credentials, states⟩ :=
      ih (fun v member => blind v (List.mem_cons_of_mem _ member)) next
    rw [← c.execute_request_headers v.request v.script] at first
    exact ⟨.cons first runs, credentials, states⟩

end Client

/-- Settings that cannot be told apart by how they are shown, nor by the clients that they make. -/
structure Config.Indistinguishable (config config' : Config) (logger : Option String) : Prop where
  shown : config'.shown = config.shown
  proxyShown : config'.proxy.map ProxyConfig.shown = config.proxy.map ProxyConfig.shown
  clients :
    (∃ error, Client.create config logger = .error error ∧
      Client.create config' logger = .error error) ∨
      ∃ created created', Client.create config logger = .ok created ∧
        Client.create config' logger = .ok created' ∧ created'.records = created.records ∧
        ∀ calls, Client.Indistinguishable created.value created'.value (Visit.ofSchedules calls)

namespace Client

section

variable {config config' : Config} (same : config'.masked = config.masked) {logger : Option String}

include same

/-- Settings whose passwords may be exchanged cannot be told apart. -/
theorem indistinguishable_of_interchangeable
    (interchangeable : config.Interchangeable config' logger) :
    config.Indistinguishable config' logger where
  shown := by rw [← config'.shown_masked, same, config.shown_masked]
  proxyShown := by
    rcases proxy_masked same with ⟨direct, direct'⟩ | ⟨p, p', proxied, proxied', masked⟩
    · rw [direct, direct']
    · rw [proxied, proxied', Option.map_some, Option.map_some, ← p'.shown_masked, masked,
        p.shown_masked]
  clients := by
    rcases create_alike same interchangeable with failed | ⟨created, created', built, built',
      clients, records⟩
    · exact .inl failed
    · exact .inr ⟨created, created', built, built', records, fun calls =>
        indistinguishable_of_concealed _ (Visit.blind_ofSchedules calls) clients⟩

/-- The passwords of settings that cannot be told apart may be exchanged. -/
theorem interchangeable_of_indistinguishable (apart : config.Indistinguishable config' logger) :
    config.Interchangeable config' logger where
  proxy p p' username proxied proxied' named := by
    rcases proxy_masked same with ⟨direct, -⟩ | ⟨_, _, here, here', masked⟩
    · rw [proxied] at direct
      cases direct
    · cases proxied.symm.trans here
      cases proxied'.symm.trans here'
      have named' : p'.username = some username := (ProxyConfig.eq_of_masked masked).2.2.trans named
      refine Credentials.interchangeable_of_errors rfl fun error => ?_
      rw [← create_unencodable_iff logger proxied named,
        ← create_unencodable_iff logger proxied' named']
      rcases apart.clients with ⟨other, failed, failed'⟩ | ⟨created, created', built, built', -⟩
      · rw [failed, failed']
      · rw [built, built']
        exact iff_of_false nofun nofun
  own := by
    rintro ⟨created, built⟩
    rcases apart.clients with ⟨error, failed, -⟩ | ⟨_, created', here, built', -, alike⟩
    · rw [built] at failed
      cases failed
    cases built.symm.trans here
    refine Credentials.interchangeable_of_errors (defaultCredentials_masked same) fun error => ?_
    obtain ⟨port, free⟩ := exists_portRequest_apart config
    have free' : (portRequest port).url.scope ∉
        (config'.proxy.bind (·.registration?)).toList.map Prod.fst := by
      rwa [registered_masked same]
    let schedule : Exchange.Schedule := ⟨fun _ => 0, fun _ => .status 200⟩
    have runs := (alike [(portRequest port, schedule)]).runs
    cases runs with
    | cons run _ =>
      rw [← execute_unencodable_iff built free schedule.script,
        ← execute_unencodable_iff built' free' schedule.script]
      have sends : (created'.value.execute (portRequest port) schedule.script).sends =
          (created.value.execute (portRequest port) schedule.script).sends := run.sends
      rw [sends]
      exact and_congr_left fun _ => (error_iff_of_map_eq run.result).symm

/-- Settings that are the same but for passwords cannot be told apart exactly if their passwords may
    be exchanged: those of credentials with octets have no influence on anything but what the
    clients authorize requests with. -/
theorem create_indistinguishable_iff (logger : Option String) :
    config.Indistinguishable config' logger ↔ config.Interchangeable config' logger :=
  ⟨interchangeable_of_indistinguishable same, indistinguishable_of_interchangeable same⟩

end

end Client

end

namespace Client

attribute [local instance] Codecs.plain

/-- Settings with a user and a proxy, for a password of each. -/
def namedConfig (password proxyPassword : RawText) : Config :=
  { Config.default with
    username := some "alice", password := some password
    proxy := some ⟨"h", 80, some "bob", some proxyPassword⟩ }

theorem create_indistinguishable_named :
    namedConfig "one" "two" ≠ namedConfig "three" "four" ∧
      (namedConfig "one" "two").Indistinguishable (namedConfig "three" "four") none := by
  have same : (namedConfig "three" "four").masked = (namedConfig "one" "two").masked := rfl
  refine ⟨by decide, (create_indistinguishable_iff same none).mpr
    ⟨?_, fun _ => .inr ⟨⟨_, rfl⟩, ⟨_, rfl⟩⟩⟩⟩
  rintro p p' username proxied proxied' named
  cases proxied
  cases proxied'
  cases named
  exact .inr ⟨⟨_, rfl⟩, ⟨_, rfl⟩⟩

/-- A client whose password is a surrogate can be told from one with another password: it raises
    where the other one hands an answer on. -/
theorem surrogate_told :
    let plainConfig : Config := { surrogateConfig with password := some "x" }
    Config.create ⟨some "u", some "x", .none, none, .none, .none, .none⟩ = .ok plainConfig ∧
      Config.create ⟨some "u", surrogateConfig.password, .none, none, .none, .none, .none⟩ =
        .ok surrogateConfig ∧
      surrogateConfig.masked = plainConfig.masked ∧
      ∃ created created', create plainConfig none = .ok created ∧
        create surrogateConfig none = .ok created' ∧
        let run := created.value.execute (.toHost "GET" .none) (.ofOutcomes 0 fun _ => .status 200)
        let run' :=
          created'.value.execute (.toHost "GET" .none) (.ofOutcomes 0 fun _ => .status 200)
        run.result.map (·.response.status) = .ok 200 ∧
          run'.result.map (·.response.status) =
            .error (.unencodable ⟨⟨[.char 'u', .char ':', .surrogate 0]⟩⟩) :=
  ⟨Config.create_names _ _ none, Config.create_names _ _ none, rfl, _, _, rfl,
    rfl, by decide +kernel, by decide +kernel⟩

end Client

end Courier
