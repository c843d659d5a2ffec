import Courier.Client.Execute
import Courier.Proofs.Number
import Courier.Proofs.Raw
import Courier.Proofs.Results
import Courier.Proofs.Session

/-!
# How a client starts

A client starts open, with the policies that its settings make and with credentials for every
target: those of the settings, or those of the anonymous user. The credentials of a proxy are
registered beside them, and the auth state that the proxy starts with has none of its own.
-/

namespace Courier

/-- Overrides are merged in exactly if what they make keeps the limits. -/
theorem Config.merge_eq_ok_iff {c merged : Config} {o : Config.Overrides} :
    c.merge o = .ok merged ↔ (c.override o).check = .ok () ∧ c.override o = merged := by
  unfold merge
  cases (c.override o).check <;> simp [bind, Except.bind, pure, Except.pure]

/-- A merge is refused for what the check of its settings is. -/
theorem Config.merge_eq_error {c : Config} {o : Config.Overrides} {error : Config.Error} :
    c.merge o = .error error ↔ (c.override o).check = .error error := by
  unfold merge
  cases (c.override o).check <;> simp [bind, Except.bind, pure, Except.pure]

/-- Settings keep the limits exactly if none of them is on the wrong side of its own. -/
theorem Config.check_eq_ok_iff {c : Config} : c.check = .ok () ↔
    c.timeout.atMost 0 = false ∧ c.retryInterval.less 0 = false ∧
      c.maxRedirects.less 0 = false := by
  unfold check checkTimeout checkRetryInterval checkMaxRedirects
  cases c.timeout.atMost 0 <;> cases c.retryInterval.less 0 <;> cases c.maxRedirects.less 0 <;>
    simp [bind, Except.bind]

/-- Accepted settings keep the limits. -/
theorem Config.check_of_create {given : Config.Overrides} {config : Config}
    (ok : Config.create given = .ok config) : config.check = .ok () := by
  obtain ⟨checked, rfl⟩ := merge_eq_ok_iff.mp ok
  exact checked

/-- A number of redirects that is accepted is not below zero. -/
theorem Config.maxRedirects_of_create {given : Config.Overrides} {config : Config}
    (ok : Config.create given = .ok config) : config.maxRedirects.less 0 = false :=
  (check_eq_ok_iff.mp (check_of_create ok)).2.2

/-- An integer number of retries stands for a number that is not below zero. -/
theorem Config.retryCount_integer {config : Config} {retries : Int}
    (integer : config.maxRetries = .integer retries) :
    ∃ count : Nat, config.retryCount = .integer count := by
  have sign : (Number.integer retries).less 0 = decide (retries < 0) :=
    Number.less_integer retries 0
  unfold retryCount
  rw [integer, sign]
  by_cases negative : retries < 0
  · exact ⟨3, if_pos (decide_eq_true negative)⟩
  · refine ⟨retries.toNat, ?_⟩
    rw [if_neg (by simpa using negative), Int.toNat_of_nonneg (by omega)]

namespace Client

/-- A client as it is built from accepted settings. -/
def IsNew [Codecs] (c : Client) : Prop :=
  ∃ given config logger created,
    Config.create given = .ok config ∧ create config logger = .ok created ∧ created.value = c

/-- Connecting leaves the session as it was, or, if the proxy has a user name, with its credentials
    seeded. -/
theorem connectProxy_session [Codecs] {session : Session} {proxy : Option ProxyConfig}
    {connected : Logged (Session × Option ProxyEndpoint)}
    (ok : connectProxy session proxy = .ok connected) :
    (proxy.bind (·.username) = none ∧ connected.value.1 = session) ∨
      ∃ p username, proxy = some p ∧ p.username = some username ∧
        connected.value.1 = (seedProxy session p username).value := by
  cases proxy with
  | none =>
    cases ok
    exact .inl ⟨rfl, rfl⟩
  | some proxy =>
    unfold connectProxy at ok
    cases named : proxy.username with
    | none =>
      simp only [named] at ok
      obtain ⟨endpoint, -, ok⟩ := bind_eq_ok.mp ok
      cases ok
      exact .inl ⟨named, rfl⟩
    | some username =>
      simp only [named] at ok
      obtain ⟨value, -, ok⟩ := bind_eq_ok.mp ok
      obtain ⟨endpoint, -, ok⟩ := bind_eq_ok.mp ok
      cases ok
      exact .inr ⟨proxy, username, rfl, named, rfl⟩

/-- Nothing is connected whose proxy has credentials without octets. -/
theorem connectProxy_encodable [Codecs] {session : Session} {p : ProxyConfig} {username : RawText}
    (named : p.username = some username) {connected : Logged (Session × Option ProxyEndpoint)}
    (ok : connectProxy session (some p) = .ok connected) :
    (proxyCredentials p username).IsEncodable := by
  unfold connectProxy at ok
  simp only [named] at ok
  obtain ⟨value, header, -⟩ := bind_eq_ok.mp ok
  obtain ⟨octets, encoded, -⟩ := map_eq_ok.mp (mapError_eq_ok.mp header)
  exact ⟨octets, encoded⟩

/-- A session as clients start with it: some credentials are registered for every target, and no
    auth state has credentials of its own. -/
structure Starts (credentials : Credentials) (session : Session) : Prop where
  everyTarget : (Scope.any, credentials) ∈ session.store.entries
  bareStates : ∀ host state, session.cache.get? host = some state → state.credentials = none

theorem startSession_starts (config : Config) :
    Starts (defaultCredentials config) (startSession config) where
  everyTarget := by simp [startSession, CredentialStore.set, CredentialStore.empty, Session.empty]
  bareStates host state cached := by cases cached

/-- Seeding the credentials of a proxy registers them beside the others, and commits a state without
    any. -/
theorem Starts.seedProxy {credentials : Credentials} {session : Session}
    (starts : Starts credentials session) (proxy : ProxyConfig) (username : RawText) :
    Starts credentials (seedProxy session proxy username).value where
  everyTarget := CredentialStore.mem_set_of_ne starts.everyTarget (by simp [Scope.any, Scope.of]) _
  bareStates host state cached := by
    simp only [Client.seedProxy, Session.newState, AuthCache.put, AuthCache.get?_set] at cached
    split at cached
    · cases cached
      rfl
    · exact starts.bareStates host state cached

theorem Starts.connectProxy [Codecs] {credentials : Credentials} {session : Session}
    (starts : Starts credentials session) {proxy : Option ProxyConfig}
    {connected : Logged (Session × Option ProxyEndpoint)}
    (ok : connectProxy session proxy = .ok connected) : Starts credentials connected.value.1 := by
  rcases connectProxy_session ok with ⟨-, same⟩ | ⟨proxy, username, -, -, seeded⟩
  · rwa [same]
  · rw [seeded]
    exact starts.seedProxy proxy username

/-- What a new client is made of. -/
structure MadeFrom (config : Config) (c : Client) : Prop where
  settings : c.config = config
  isOpen : c.closed = false
  transportRetries : c.transportRetry.maxRetries = config.retryCount
  resendsSent : c.transportRetry.resendsSent = true
  statusRetries : c.statusRetry.maxRetries = config.retryCount
  starts : Starts (defaultCredentials config) c.session

/-- A client is built of its settings, with the session and the proxy that connecting gives. -/
theorem create_value [Codecs] {config : Config} {logger : Option String} {created : Logged Client}
    (ok : create config logger = .ok created) :
    ∃ connected, connectProxy (startSession config) config.proxy = .ok connected ∧
      created.value = {
        config
        logger := logger.getD loggerName
        session := connected.value.1
        transportRetry :=
          { maxRetries := config.retryCount, resendsSent := true, logger := logger.getD loggerName }
        statusRetry :=
          { maxRetries := config.retryCount, interval := config.retryInterval
            logger := logger.getD loggerName }
        redirects := { logger := logger.getD loggerName }
        proxy := connected.value.2
        cookies := .empty
        closed := false
        releases := 0 } := by
  unfold create at ok
  obtain ⟨connected, connection, ok⟩ := bind_eq_ok.mp ok
  cases ok
  exact ⟨connected, connection, rfl⟩

theorem create_madeFrom [Codecs] {config : Config} {logger : Option String}
    {created : Logged Client}
    (ok : create config logger = .ok created) : created.value.MadeFrom config := by
  obtain ⟨connected, connection, made⟩ := create_value ok
  rw [made]
  exact ⟨rfl, rfl, rfl, rfl, rfl, (startSession_starts config).connectProxy connection⟩

/-- A client is refused for the credentials of its proxy exactly if these have no octets. -/
theorem create_unencodable_iff [Codecs] {config : Config} (logger : Option String) {p : ProxyConfig}
    {username : RawText} (proxied : config.proxy = some p) (named : p.username = some username)
    {error : RawText.Unencodable} :
    create config logger = .error (.unencodable error) ↔
      (proxyCredentials p username).octets = .error error := by
  rw [← Credentials.basicHeader_eq_error]
  unfold create connectProxy
  simp only [proxied, named]
  cases (proxyCredentials p username).basicHeader with
  | error error' => simp [Except.mapError, bind, Except.bind]
  | ok value =>
    cases made : ProxyEndpoint.create p.url.toList
        ⟨[⟨Http.FieldName.proxyAuthorization, Utf8.encode value⟩]⟩ with
    | error error' => simp [Except.mapError, bind, Except.bind, made]
    | ok endpoint => simp [Except.mapError, bind, Except.bind, made, pure, Except.pure]

/-- A new client has not released its connections. -/
theorem create_releases [Codecs] {config : Config} {logger : Option String}
    {created : Logged Client}
    (ok : create config logger = .ok created) : created.value.releases = 0 := by
  obtain ⟨connected, -, made⟩ := create_value ok
  rw [made]

/-- A new client starts with the session of its settings, or, if its proxy has a user name, with the
    credentials of the proxy seeded there. -/
theorem create_session [Codecs] {config : Config} {logger : Option String} {created : Logged Client}
    (ok : create config logger = .ok created) :
    (config.proxy.bind (·.username) = none ∧ created.value.session = startSession config) ∨
      ∃ p username, config.proxy = some p ∧ p.username = some username ∧
        created.value.session = (seedProxy (startSession config) p username).value := by
  obtain ⟨connected, connection, made⟩ := create_value ok
  rw [made]
  exact connectProxy_session connection

/-- A new client has credentials for every target. -/
theorem MadeFrom.covers {config : Config} {c : Client} (made : c.MadeFrom config) :
    c.session.store.Covers :=
  CredentialStore.covers_of_any made.starts.everyTarget

end Client

/-! ## A small client

With nothing given, a client has the default settings. The requests and outcomes here are the ones
that the general results of calls are applied to. -/

/-- Settings are accepted in which nothing but names, passwords and the proxy is given. -/
theorem Config.create_names (username password : Option RawText) (proxy : Option ProxyConfig) :
    Config.create ⟨username, password, .none, proxy, .none, .none, .none⟩ =
      .ok { Config.default with username, password, proxy } := by
  have timeout : defaultTimeout.atMost 0 = false := by decide +kernel
  have interval : defaultRetryInterval.less 0 = false := by decide +kernel
  have redirects : defaultMaxRedirects.less 0 = false := by decide
  have given : default.override ⟨username, password, .none, proxy, .none, .none, .none⟩ =
      { Config.default with username, password, proxy } := by
    simp [override, default]
  rw [create, merge_eq_ok_iff, given, check_eq_ok_iff]
  exact ⟨⟨timeout, interval, redirects⟩, rfl⟩

theorem Config.create_none : Config.create .none = .ok .default := create_names none none none

/-- A client with the default settings is a new one. -/
theorem Client.isNew_of_create_default [Codecs] {created : Logged Client}
    (built : Client.create .default none = .ok created) : created.value.IsNew :=
  ⟨.none, .default, none, created, Config.create_none, built, rfl⟩

/-- A request to a host, with this body and no fields of its own. -/
def Http.Request.toHost (method : String) (body : Http.Body) : Http.Request :=
  .create method ⟨"https".toList, [], ['h'], none, ['/', 'a'], none, none⟩ .empty body

/-- An answer with a status and nothing else. -/
def Outcome.status (status : Int) : Outcome := .answer (.create status .empty [] none none)

/-- A redirect to a location. -/
def Outcome.redirect (location : String) : Outcome :=
  .answer (.create 302 ⟨[⟨Http.FieldName.location, Utf8.ofString location⟩]⟩ [] none none)

end Courier
