import Courier.Proofs.Authorization
import Courier.Proofs.Calls
import Courier.Proofs.Settled

/-!
# The hosts that a client has been to

The cache lists its hosts in the order in which they came in, each once. A client whose store covers
every target commits a state for a target when it first sends there, and never lacks credentials. If
these have octets (`Session.Presentable`), its cache lists after calls the hosts that it started
with and then those that were sent to (`hosts_afterVisits`). A new client starts with the wildcard
and, for a proxy with a user name, with the place of the proxy. So its cache tells the hosts that it
has been to exactly if the credentials of its settings have octets (`contacts_iff`): with others it
commits a state and sends nothing.
-/

namespace Courier

namespace Scope

theorem mem_foldl_contact (targets hosts : List Scope) (host : Scope) :
    host ∈ targets.foldl contact hosts ↔ host ∈ hosts ∨ host ∈ targets := by
  induction targets generalizing hosts with
  | nil => simp
  | cons target rest ih => rw [List.foldl_cons, ih, mem_contact, List.mem_cons, or_assoc]

theorem foldl_contact_nodup (targets : List Scope) {hosts : List Scope} (nodup : hosts.Nodup) :
    (targets.foldl contact hosts).Nodup := by
  induction targets generalizing hosts with
  | nil => exact nodup
  | cons target rest ih => exact ih (contact_nodup nodup target)

end Scope

/-- Authenticating to a target that there are credentials for lists it among the hosts. -/
theorem Session.hosts_authenticate {s : Session} (covers : s.store.Covers) (target : Scope) :
    (s.authenticate target).value.session.cache.hosts = Scope.contact s.cache.hosts target := by
  unfold authenticate
  cases cached : s.cache.get? target with
  | some state =>
    have member : target ∈ s.cache.hosts := by simp [AuthCache.mem_hosts_iff, cached]
    simp only [Scope.contact, member, if_true]
  | none =>
    obtain ⟨credentials, found⟩ := Option.isSome_iff_exists.mp (covers target)
    simp only [CredentialStore.lookup_value, found, newState, AuthCache.hosts_commit]

/-- A session that presents what its store finds, and finds credentials with octets for every
    target. -/
structure Session.Presentable (s : Session) : Prop where
  covers : s.store.Covers
  settled : s.Settled
  encodable : ∀ entry ∈ s.store.entries, entry.2.IsEncodable

/-- A presentable session presents credentials with octets at the target of a URL. -/
theorem Session.Presentable.credentials? [Codecs] {s : Session} (presentable : s.Presentable)
    (url : Url) :
    ∃ credentials, s.credentials? url.scope = some credentials ∧ credentials.IsEncodable := by
  obtain ⟨credentials, found⟩ := Option.isSome_iff_exists.mp (presentable.covers url.scope)
  obtain ⟨scope, member, -⟩ := CredentialStore.fits_of_find? rfl rfl found
  exact ⟨credentials, by rw [presentable.settled.credentials?, found],
    presentable.encodable _ member⟩

section

variable [Codecs]

/-- Every step leaves a presentable session presentable. -/
theorem Session.Presentable.advance {call : Call} (presentable : call.client.session.Presentable)
    (script : Exchange.Script) : (call.advance script).call.client.session.Presentable := by
  have store := (call.advance_continues script).store
  refine ⟨store ▸ presentable.covers, ?_, store ▸ presentable.encodable⟩
  rw [call.advance_session]
  exact presentable.settled.prepared call.current

namespace Call

variable {script : Exchange.Script}

/-- The targets that events send to. -/
def Run.targets (run : Run) : List Scope :=
  (Event.requests run.events).map fun sent => sent.url.scope

/-- A run lists the targets that it sends to among the hosts. -/
theorem hosts_run (fuel : Nat) (call : Call) (presentable : call.client.session.Presentable)
    (buffered : call.current.buffered = true) :
    (call.run script fuel).client.session.cache.hosts =
      (call.run script fuel).targets.foldl Scope.contact call.client.session.cache.hosts := by
  induction fuel generalizing call with
  | zero => rfl
  | succ fuel ih =>
    rw [run_succ]
    cases prepared : (call.client.prepare call.current).value.2 with
    | error failure =>
      -- nothing is sent, and only a host that stands for no name keeps it from being sent
      obtain ⟨credentials, known, encodable⟩ := presentable.credentials? call.current.url
      have unnamed : ¬ call.current.url.IsNamed := by
        intro named
        obtain ⟨outgoing, sent⟩ :=
          (Client.prepare_isOk_iff _ buffered known).mpr ⟨named, fun _ => encodable⟩
        rw [prepared] at sent
        cases sent
      have session : (call.advance script).call.client.session = call.client.session := by
        rw [advance_session, Client.preparedSession_of_unnamed _ unnamed]
      simp only [(advance_of_refused prepared).1, finish, Run.targets,
        requests_advance_of_refused prepared, session]
      rfl
    | ok outgoing =>
      have sent := requests_advance_of_sent script prepared
      have hosts : (call.advance script).call.client.session.cache.hosts =
          Scope.contact call.client.session.cache.hosts outgoing.url.scope := by
        obtain ⟨named, -⟩ := call.client.prepare_state call.current prepared
        rw [advance_session, call.client.prepare_url call.current prepared,
          Client.preparedSession_of_named _ named]
        exact Session.hosts_authenticate presentable.covers _
      cases (call.advance script).result with
      | some result => simp [finish, Run.targets, sent, hosts]
      | none =>
        have rest :=
          ih (call.advance script).call (presentable.advance script) (advance_buffered buffered)
        rw [hosts] at rest
        simpa [Run.targets, sent] using rest

/-- What a send gives never ends a call for want of credentials. -/
theorem verdict_ne_auth (call : Call) (given : Except Exchange.Error Http.Response)
    (message : String)
    (scope : Option Scope) : call.verdict given ≠ .fail (.client (.auth message scope)) := by
  have decided := call.decides_verdict given
  intro failed
  rw [failed] at decided
  generalize ended : Verdict.fail (.client (.auth message scope)) = verdict at decided
  cases decided with
  | @lostTarget response error _ _ _ _ => cases error <;> cases ended
  | _ => cases ended

/-- A run whose store covers every target does not end for want of credentials. -/
theorem run_ne_auth (fuel : Nat) (call : Call) (covers : call.client.session.store.Covers)
    (buffered : call.current.buffered = true) (message : String) (scope : Option Scope) :
    (call.run script fuel).result ≠ .error (.client (.auth message scope)) := by
  induction fuel generalizing call with
  | zero => simp [run, finish]
  | succ fuel ih =>
    rw [run_succ]
    cases prepared : (call.client.prepare call.current).value.2 with
    | error failure =>
      have refuses := call.client.prepare_eq_error call.current buffered prepared
      simp only [(advance_of_refused prepared).1, finish]
      rintro ⟨⟩
      cases refuses with
      | unauthenticated _ lacks =>
        obtain ⟨state, given⟩ := Session.authenticate_of_covers covers call.current.url.scope
        rw [lacks] at given
        cases given
    | ok outgoing =>
      have ends := (advance_of_sent script prepared).1
      cases ended : (call.advance script).result with
      | some result =>
        rintro rfl
        rw [ended] at ends
        exact verdict_ne_auth _ _ message scope (Verdict.eq_fail_of_result ends.symm)
      | none =>
        apply ih (call.advance script).call _ (advance_buffered buffered)
        rw [(call.advance_continues script).store]
        exact covers

end Call

/-- What is registered for a proxy, if it has a user name. -/
def ProxyConfig.registration? (p : ProxyConfig) : Option (Scope × Credentials) :=
  p.username.map fun username =>
    (.of (some p.host) (some p.port), Client.proxyCredentials p username)

omit [Codecs] in
/-- What is registered for a proxy is for one host and one port. -/
theorem ProxyConfig.registration_eq_of_fits {p : ProxyConfig} {entry : Scope × Credentials}
    (registered : p.registration? = some entry) {target : Scope} (fits : entry.1.Fits target) :
    entry.1 = target := by
  obtain ⟨username, -, rfl⟩ := Option.map_eq_some_iff.mp registered
  obtain ⟨hosts, ports⟩ := fits
  simp only [Scope.of, Option.map_some, reduceCtorEq, false_or] at hosts ports
  exact congrArg₂ Scope.mk hosts ports

namespace Client

theorem visit_covers (c : Client) (v : Visit) (covers : c.session.store.Covers) :
    (c.visit v).client.session.store.Covers := by
  rw [visit, (c.execute_continues v.request v.script).store]
  exact covers

/-- Every visit leaves a presentable session presentable. -/
theorem visit_presentable (c : Client) (v : Visit) (presentable : c.session.Presentable) :
    (c.visit v).client.session.Presentable := by
  have store := (c.execute_continues v.request v.script).store
  exact ⟨store ▸ presentable.covers, execute_settled presentable.settled v.request v.script,
    store ▸ presentable.encodable⟩

theorem hosts_visit {c : Client} (presentable : c.session.Presentable) (v : Visit) :
    (c.visit v).client.session.cache.hosts =
      (c.visit v).targets.foldl Scope.contact c.session.cache.hosts := by
  unfold visit execute
  split
  · rfl
  · exact Call.hosts_run _ _ presentable rfl

/-- After visits the cache lists the hosts from before and then those that were sent to. -/
theorem hosts_afterVisits (visits : List Visit) {c : Client} (presentable : c.session.Presentable) :
    (c.afterVisits visits).session.cache.hosts =
      ((c.runs visits).flatMap Call.Run.targets).foldl Scope.contact c.session.cache.hosts := by
  induction visits generalizing c with
  | nil => rfl
  | cons v rest ih =>
    rw [afterVisits, ih (c.visit_presentable v presentable), hosts_visit presentable, runs,
      List.flatMap_cons, List.foldl_append]

theorem visit_ne_auth {c : Client} (covers : c.session.store.Covers) (v : Visit) (message : String)
    (scope : Option Scope) : (c.visit v).result ≠ .error (.client (.auth message scope)) := by
  unfold visit execute
  split
  · simp
  · exact Call.run_ne_auth _ _ covers rfl message scope

/-- What is registered with a new client: its own credentials for every target, or the anonymous
    ones, and those of its proxy. -/
theorem create_registered {config : Config} {logger : Option String} {created : Logged Client}
    (built : create config logger = .ok created) :
    created.value.session.store.entries =
        (.any, defaultCredentials config) :: (config.proxy.bind (·.registration?)).toList ∧
      created.value.session.cache.hosts =
        (config.proxy.bind (·.registration?)).toList.map Prod.fst := by
  have wildcard : ∀ host port, (Scope.any == Scope.of (some host) port) = false :=
    fun host port => rfl
  rcases create_session built with ⟨unnamed, session⟩ | ⟨p, username, proxied, named, session⟩
  · have nothing : config.proxy.bind (·.registration?) = none := by
      cases proxied : config.proxy with
      | none => rfl
      | some p =>
        rw [proxied] at unnamed
        simp only [Option.bind_some] at unnamed
        simp [ProxyConfig.registration?, unnamed]
    rw [session, nothing]
    exact ⟨rfl, rfl⟩
  · have registered : config.proxy.bind (·.registration?) =
        some (.of (some p.host) (some p.port), proxyCredentials p username) := by
      simp [proxied, ProxyConfig.registration?, named]
    rw [session, registered]
    refine ⟨?_, ?_⟩
    · simp [seedProxy, startSession, Session.newState, CredentialStore.set, CredentialStore.empty,
        wildcard]
    · simp [seedProxy, startSession, Session.newState, Session.empty, AuthCache.put, AuthCache.set,
        AuthCache.empty, AuthCache.contains, AuthCache.get?, AuthCache.hosts]

omit [Codecs] in
theorem defaultCredentials_eq (config : Config) :
    defaultCredentials config =
      if config.username.getD "" = "" then ⟨"anonymous", ""⟩
      else ⟨config.username.getD "", config.password.getD ""⟩ := by
  unfold defaultCredentials
  cases config.username with
  | none => exact (if_pos rfl).symm
  | some username =>
    simp only [Option.getD_some]
    by_cases empty : username = (("" : String) : RawText)
    · rw [if_pos empty, if_pos (RawText.isEmpty_iff.mpr empty)]
      rfl
    · rw [if_neg empty, if_neg fun none => empty (RawText.isEmpty_iff.mp none)]

/-- Everything that is registered with a new client has octets if the credentials of its settings
    do. -/
theorem create_presentable {config : Config} {logger : Option String} {created : Logged Client}
    (built : create config logger = .ok created)
    (encodable : (defaultCredentials config).IsEncodable) :
    created.value.session.Presentable := by
  have made := create_madeFrom built
  refine ⟨made.covers, made.settled, ?_⟩
  rw [(create_registered built).1]
  refine List.forall_mem_cons.mpr ⟨encodable, fun entry member => ?_⟩
  obtain ⟨p, proxied, registered⟩ := Option.bind_eq_some_iff.mp (Option.mem_toList.mp member)
  obtain ⟨username, named, rfl⟩ := Option.map_eq_some_iff.mp registered
  obtain ⟨connected, connection, -⟩ := create_value built
  rw [proxied] at connection
  exact connectProxy_encodable named connection

/-- What is to hold of a new client and of visits that are made with it when nobody edits its store
    and its cache. -/
structure Contacts (config : Config) (created : Client) (visits : List Visit) : Prop where
  registered : created.session.store.entries =
    (.any, if config.username.getD "" = "" then ⟨"anonymous", ""⟩
      else ⟨config.username.getD "", config.password.getD ""⟩) ::
        (config.proxy.bind (·.registration?)).toList
  authenticated : ∀ run ∈ created.runs visits, ∀ message scope,
    run.result ≠ .error (.client (.auth message scope))
  /-- No host has two states. -/
  once : (created.afterVisits visits).session.cache.hosts.Nodup
  sentTo : ∀ host, host ∈ (created.afterVisits visits).session.cache.hosts ↔
    (∃ run ∈ created.runs visits, ∃ sent ∈ Event.requests run.events, sent.url.scope = host) ∨
      host ∈ (config.proxy.bind (·.registration?)).toList.map Prod.fst

/-- A new client whose credentials have octets never lacks any, and after any visits its cache has
    one state for each target that was sent to, beside that of its proxy. -/
theorem contacts_of_encodable {config : Config} {logger : Option String} {created : Logged Client}
    (built : create config logger = .ok created)
    (encodable : (defaultCredentials config).IsEncodable)
    (visits : List Visit) : Contacts config created.value visits := by
  have covers := (create_madeFrom built).covers
  obtain ⟨entries, hosts⟩ := create_registered built
  have after := hosts_afterVisits visits (create_presentable built encodable)
  rw [hosts] at after
  refine ⟨?_, ?_, ?_, ?_⟩
  · rw [entries, defaultCredentials_eq]
  · intro run member message scope
    obtain ⟨before, v, covered, rfl⟩ :=
      runs_forall (P := (·.session.store.Covers)) visit_covers visits covers run member
    exact visit_ne_auth covered v message scope
  · rw [after]
    apply Scope.foldl_contact_nodup
    cases config.proxy.bind (·.registration?) <;> simp
  · intro host
    rw [after, Scope.mem_foldl_contact, or_comm]
    simp [Call.Run.targets]

/-- A request to a port of a host. -/
def portRequest (port : Int) : Http.Request :=
  .create "GET" ⟨"https".toList, [], ['h'], some port, ['/'], none, none⟩ .empty .none

/-- One of two ports is not that of the proxy. -/
theorem exists_portRequest_apart (config : Config) : ∃ port : Int,
    (portRequest port).url.scope ∉ (config.proxy.bind (·.registration?)).toList.map Prod.fst := by
  by_contra all
  simp only [not_exists, not_not] at all
  have first := all 1
  have second := all 2
  cases registered : config.proxy.bind (·.registration?) with
  | none => simp [registered] at first
  | some entry =>
    rw [registered] at first second
    simp only [Option.toList_some, List.map_cons, List.map_nil, List.mem_singleton] at first second
    have same := congrArg Scope.port (first.trans second.symm)
    simp [portRequest, Http.Request.create, Url.scope, Scope.named, Scope.of] at same

/-- A new client presents its own credentials at the target of every URL but that of its proxy. -/
theorem create_credentials? {config : Config} {logger : Option String} {created : Logged Client}
    (built : create config logger = .ok created) {url : Url}
    (apart : url.scope ∉ (config.proxy.bind (·.registration?)).toList.map Prod.fst) :
    created.value.session.credentials? url.scope = some (defaultCredentials config) := by
  have made := create_madeFrom built
  obtain ⟨credentials, found⟩ := Option.isSome_iff_exists.mp (made.covers url.scope)
  obtain ⟨scope, member, fits⟩ := CredentialStore.fits_of_find? rfl rfl found
  rw [made.settled.credentials?, found]
  rw [(create_registered built).1] at member
  rcases List.mem_cons.mp member with same | proxied
  · rw [((Prod.mk.injEq ..).mp same).2]
  · refine absurd (List.mem_map.mpr ⟨_, proxied, ?_⟩) apart
    obtain ⟨p, -, registered⟩ := Option.bind_eq_some_iff.mp (Option.mem_toList.mp proxied)
    exact ProxyConfig.registration_eq_of_fits registered fits

/-- A new client whose credentials have no octets commits a state for a target that it does not send
    to. -/
theorem not_contacts_of_unencodable {config : Config} {logger : Option String}
    {created : Logged Client} (built : create config logger = .ok created)
    (unencodable : ¬ (defaultCredentials config).IsEncodable) :
    ∃ visits, ¬ Contacts config created.value visits := by
  have made := create_madeFrom built
  obtain ⟨port, apart⟩ := exists_portRequest_apart config
  let request := portRequest port
  let script : Exchange.Script := .ofOutcomes 0 fun _ => .status 200
  have named : request.url.IsNamed := ⟨_, rfl⟩
  have known : created.value.session.credentials? request.url.scope =
    some (defaultCredentials config) :=
    create_credentials? built apart
  cases prepared : (created.value.prepare request.read).value.2 with
  | ok outgoing =>
    have sendable := (prepare_isOk_iff request.read rfl known).mp ⟨outgoing, prepared⟩
    exact absurd (sendable.2 rfl) unencodable
  | error failure =>
    obtain ⟨-, silent, session⟩ := execute_of_refused_start script made.isOpen prepared
    refine ⟨[⟨request, script⟩], fun contacts => ?_⟩
    have committed : request.url.scope ∈
        (created.value.afterVisits [⟨request, script⟩]).session.cache.hosts := by
      change _ ∈ (created.value.execute request script).client.session.cache.hosts
      have committing : created.value.preparedSession request.read =
          (created.value.session.authenticate request.url.scope).value.session :=
        preparedSession_of_named _ named
      rw [session, committing, Session.hosts_authenticate made.covers]
      exact (Scope.mem_contact _ _ _).mpr (.inr rfl)
    rcases (contacts.sentTo _).mp committed with ⟨run, member, sent, among, -⟩ | proxied
    · rw [runs, runs, List.mem_singleton] at member
      rw [member, visit, silent] at among
      cases among
    · exact apart proxied

/-- After any visits the cache of a new client has one state for each target that was sent to,
    beside that of its proxy, exactly if the credentials of its settings have octets. -/
theorem contacts_iff {config : Config} {logger : Option String} {created : Logged Client}
    (built : create config logger = .ok created) :
    (∀ visits, Contacts config created.value visits) ↔ (defaultCredentials config).IsEncodable := by
  constructor
  · intro contacts
    by_contra unencodable
    obtain ⟨visits, fails⟩ := not_contacts_of_unencodable built unencodable
    exact fails (contacts visits)
  · exact contacts_of_encodable built

end Client

end

namespace Client

attribute [local instance] Codecs.plain

theorem contacts_iff_proxied :
    ∃ created, create proxiedConfig none = .ok created ∧
      ((∀ visits, Contacts proxiedConfig created.value visits) ↔
        (defaultCredentials proxiedConfig).IsEncodable) := by
  obtain ⟨created, built⟩ : ∃ created, create proxiedConfig none = .ok created := ⟨_, rfl⟩
  exact ⟨created, built, contacts_iff built⟩

/-- Settings with a password that is a surrogate. -/
def surrogateConfig : Config :=
  { Config.default with username := some "u", password := some ⟨[.surrogate 0]⟩ }

/-- A client whose password is a surrogate commits a state for a host that it sends nothing to. -/
theorem surrogate_committed :
    Config.create ⟨surrogateConfig.username, surrogateConfig.password, .none, none, .none,
      .none, .none⟩ =
        .ok surrogateConfig ∧
      ∃ created, create surrogateConfig none = .ok created ∧
        let run := created.value.execute (.toHost "GET" .none) (.ofOutcomes 0 fun _ => .status 200)
        (∃ error, run.result.map Answer.response = .error (.unencodable error)) ∧
          Event.requests run.events = [] ∧
            run.client.session.cache.hosts = [⟨some "h", some 443⟩] :=
  ⟨Config.create_names _ _ none, _, rfl, ⟨_, rfl⟩, rfl, by decide +kernel⟩

end Client

end Courier
