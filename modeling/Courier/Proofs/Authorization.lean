import Courier.Proofs.Reachable
import Courier.Proofs.Turns

/-!
# What the sends of a call are authorized with

A request keeps the fields with which its caller authorizes it over every retry and redirect, and
the client adds one of its own only where there are none (`sent_authorization`). On the wire they
all give way to credentials in the URL, so a caller's field comes through exactly where there are
none (`execute_own_authorization`).

A client is to authorize every send, and to end a call that comes to a target without credentials.
It does so exactly if no turn of the call is bare: such a turn comes to a target with an auth state
that has no credentials, and the store has none either (`authorizes_iff`). A URL has a target if its
host stands for a name.
-/

namespace Courier

/-- Following a redirect changes nothing about the fields of names that are not made anew. -/
theorem Redirect.followUp_named (request : Http.Request) (url : Url) {name : Octets}
    (host : Http.sameName Http.FieldName.host name = false)
    (length : Http.sameName Http.FieldName.contentLength name = false) :
    (followUp request url).headers.named name = request.headers.named name := by
  rw [followUp, Http.Request.rebuild_named _ _ _ host length, Http.Headers.named_erase host]

section

variable [Codecs]

namespace Call

/-- A turn that comes to a target with an auth state that has no credentials, where the store has
    none either. -/
def IsBare (turn : Call) : Prop :=
  turn.current.url.IsNamed ∧
    ∃ state, turn.client.session.cache.get? turn.target = some state ∧ state.credentials = none ∧
      turn.client.session.store.find? turn.target = none

theorem isBare_iff (turn : Call) :
    turn.IsBare ↔ turn.current.url.IsNamed ∧ turn.client.session.cache.get? turn.target ≠ none ∧
      turn.client.session.credentials? turn.target = none := by
  unfold IsBare Session.credentials?
  cases turn.client.session.cache.get? turn.target with
  | none => simp
  | some state => simp

end Call

namespace Client

variable (c : Client) (request : Http.Request) (script : Exchange.Script)

variable {c request script} in
/-- The current request of every send has the caller's fields of a name that no redirect makes
    anew. -/
theorem sendings_named {name : Octets} (host : Http.sameName Http.FieldName.host name = false)
    (length : Http.sameName Http.FieldName.contentLength name = false) :
    ∀ s ∈ c.sendings request script,
      s.call.current.headers.named name = request.headers.named name := by
  refine sendings_forall
    (P := fun call => call.current.headers.named name = request.headers.named name) rfl ?_
  intro call kept
  rcases call.advance_current script with same | ⟨url, followed⟩
  · rw [same, kept]
  · rw [followed, Redirect.followUp_named _ _ host length, kept]

variable {c request script} in
/-- A request is sent with the caller's fields of authorization, or else with that of the
    credentials the session has for its target. -/
theorem sent_authorization {s : Call.Sending} (member : s ∈ c.sendings request script) :
    s.outgoing.headers.named Http.FieldName.authorization =
      if request.headers.contains Http.FieldName.authorization then
        request.headers.named Http.FieldName.authorization
      else ((s.call.client.session.credentials? s.call.target).map
        Exchange.authorizationField).toList := by
  have kept : s.call.current.headers.named Http.FieldName.authorization =
      request.headers.named Http.FieldName.authorization :=
    sendings_named (by decide) (by decide) s member
  rw [prepare_authorization _ _ (turn_of_sending member).2, Http.Headers.contains_eq_named, kept,
    ← Http.Headers.contains_eq_named]
  rfl

/-- A caller's field of authorization is in every request that is sent, and reaches the transport
    exactly if the URL then has no credentials, or the very same ones. -/
theorem execute_own_authorization {value : Octets}
    (own : (request.headers.named Http.FieldName.authorization).map (·.value) = [value]) :
    ∀ sent ∈ Event.requests (c.execute request script).events,
      sent.headers.named Http.FieldName.authorization =
          request.headers.named Http.FieldName.authorization ∧
        (((Exchange.onWire sent).headers.named Http.FieldName.authorization).map (·.value) =
            [value] ↔
          ∀ credentials, Exchange.urlCredentials? sent.url = some credentials →
            (Exchange.authorizationField credentials).value = value) := by
  intro sent member
  rw [requests_execute, List.mem_map] at member
  obtain ⟨s, made, rfl⟩ := member
  have present : request.headers.contains Http.FieldName.authorization = true := by
    rw [Http.Headers.contains_eq_named]
    cases fields : request.headers.named Http.FieldName.authorization with
    | nil => simp [fields] at own
    | cons field rest => rfl
  have kept := sent_authorization made
  rw [if_pos present] at kept
  refine ⟨kept, ?_⟩
  rw [Exchange.onWire_authorization]
  cases Exchange.urlCredentials? s.outgoing.url with
  | none => simp [kept, own]
  | some credentials => simp

end Client

end

namespace Client

/-- A request with a token of the caller's, to a host with this user information. -/
def tokenRequest (userinfo : String) : Http.Request :=
  .create "GET" ⟨"https".toList, userinfo.toList, ['h'], none, ['/', 'a'], none, none⟩
    ⟨[⟨Http.FieldName.authorization, Utf8.ofString "Bearer t"⟩]⟩ .none

attribute [local instance] Codecs.plain in
theorem execute_own_authorization_token :
    ∃ created, create .default none = .ok created ∧
      ((tokenRequest "").headers.named Http.FieldName.authorization).map (·.value) =
          [Utf8.ofString "Bearer t"] ∧
        ∃ sent ∈ Event.requests (created.value.execute (tokenRequest "")
            (.ofOutcomes 0 fun _ => .status 200)).events,
          sent.headers.named Http.FieldName.authorization =
              (tokenRequest "").headers.named Http.FieldName.authorization ∧
            (((Exchange.onWire sent).headers.named Http.FieldName.authorization).map (·.value) =
                [Utf8.ofString "Bearer t"] ↔
              ∀ credentials, Exchange.urlCredentials? sent.url = some credentials →
                (Exchange.authorizationField credentials).value = Utf8.ofString "Bearer t") := by
  let script : Exchange.Script := .ofOutcomes 0 fun _ => .status 200
  have own : ((tokenRequest "").headers.named Http.FieldName.authorization).map (·.value) =
      [Utf8.ofString "Bearer t"] := by decide +kernel
  obtain ⟨created, built, sends⟩ : ∃ created, create .default none = .ok created ∧
      Event.requests (created.value.execute (tokenRequest "") script).events ≠ [] :=
    ⟨_, rfl, by decide +kernel⟩
  obtain ⟨sent, member⟩ := List.exists_mem_of_ne_nil _ sends
  exact ⟨created, built, own, sent, member,
    execute_own_authorization created.value (tokenRequest "") script own sent member⟩

attribute [local instance] Codecs.plain in
/-- Credentials in the URL replace a caller's field of authorization on the wire. -/
theorem own_authorization_replaced :
    ∃ created, create .default none = .ok created ∧
      ((tokenRequest "u:p").headers.named Http.FieldName.authorization).map (·.value) =
          [Utf8.ofString "Bearer t"] ∧
        ∃ sent ∈ Event.requests (created.value.execute (tokenRequest "u:p")
            (.ofOutcomes 0 fun _ => .status 200)).events,
          ((Exchange.onWire sent).headers.named Http.FieldName.authorization).map (·.value) =
            [Utf8.ofString "Basic dTpw"] :=
  ⟨_, rfl, by decide +kernel, by decide +kernel⟩

/-! ## Sends without authorization -/

section

variable [Codecs] (c : Client) (request : Http.Request) (script : Exchange.Script)

/-- What a client is to do about the authorization of a call. -/
structure Authorizes : Prop where
  /-- Every request that reaches the transport presents something. -/
  presented : ∀ sent ∈ Event.requests (c.execute request script).events,
    (Exchange.onWire sent).headers.contains Http.FieldName.authorization = true
  /-- A turn that comes to a target without credentials ends the call, and nothing is sent any
      more. -/
  refused : ∀ n turn, (c.turns request script)[n]? = some turn → turn.current.url.IsNamed →
    turn.client.session.credentials? turn.target = none →
      (c.execute request script).result = .error (.client (.noCredentials turn.target)) ∧
        (c.execute request script).sends = n

variable {c request script} in
/-- A send whose target the session has credentials for reaches the transport with some. -/
theorem onWire_authorized {s : Call.Sending} (member : s ∈ c.sendings request script)
    (known : s.call.client.session.credentials? s.call.target ≠ none) :
    (Exchange.onWire s.outgoing).headers.contains Http.FieldName.authorization = true := by
  obtain ⟨credentials, found⟩ := Option.ne_none_iff_exists'.mp known
  rw [Http.Headers.contains_eq_named, Exchange.onWire_authorization]
  cases Exchange.urlCredentials? s.outgoing.url with
  | some _ => rfl
  | none =>
    rw [sent_authorization member, found]
    cases own : request.headers.contains Http.FieldName.authorization with
    | false => rfl
    | true => simpa only [if_true, ← Http.Headers.contains_eq_named] using own

variable {c} in
/-- A cached state lets a request be prepared, even if there are no credentials for its target. -/
theorem prepare_of_bare {current : Http.Request} (buffered : current.buffered = true)
    (named : current.url.IsNamed) (cached : c.session.cache.get? current.url.scope ≠ none)
    (unknown : c.session.credentials? current.url.scope = none) :
    ∃ outgoing, (c.prepare current).value.2 = .ok outgoing := by
  rcases prepare_cases (c := c) buffered with prepared | ⟨failure, refuses, -⟩
  · exact prepared
  · cases refuses with
    | unnamed unnamed => exact absurd unnamed named.name_ne_error
    | unauthenticated _ lacks =>
      exact absurd ((c.session.unauthenticated_iff _).mp lacks).1 cached
    | unencodable _ given presented _ =>
      rw [presented_of_authenticate given, unknown, ite_self] at presented
      cases presented

/-- Every send of a call is authorized, and a call that comes to a target without credentials ends
    there, exactly if no turn of it is bare. -/
theorem authorizes_iff :
    c.Authorizes request script ↔ ∀ turn ∈ c.turns request script, ¬ turn.IsBare := by
  constructor
  · intro authorizes turn member bare
    obtain ⟨n, here⟩ := List.getElem?_of_mem member
    obtain ⟨named, cached, unknown⟩ := turn.isBare_iff.mp bare
    -- the cached state lets the request through, though the call should have ended before it
    obtain ⟨outgoing, prepared⟩ := prepare_of_bare (turns_buffered member) named cached unknown
    have sent := (List.getElem?_eq_some_iff.mp (sending_of_turn here prepared)).1
    have sends := (authorizes.refused n turn here named unknown).2
    rw [sends_execute] at sends
    omega
  · intro covered
    refine ⟨?_, ?_⟩
    · intro sent member
      rw [requests_execute, List.mem_map] at member
      obtain ⟨s, made, rfl⟩ := member
      obtain ⟨turn, prepared⟩ := turn_of_sending made
      obtain ⟨named, -⟩ := s.call.client.prepare_state s.call.current prepared
      apply onWire_authorized made
      intro unknown
      have uncached : s.call.client.session.cache.get? s.call.target = none := by
        by_contra cached
        exact covered s.call turn (s.call.isBare_iff.mpr ⟨named, cached, unknown⟩)
      have refused :=
        (s.call.client.prepare_unauthenticated_iff s.call.current (turns_buffered turn)
        named).mpr ⟨uncached, unknown⟩
      rw [prepared] at refused
      cases refused
    · intro n turn here named unknown
      have member := List.mem_of_getElem? here
      have uncached : turn.client.session.cache.get? turn.target = none := by
        by_contra cached
        exact covered turn member (turn.isBare_iff.mpr ⟨named, cached, unknown⟩)
      exact execute_of_refused here ((turn.client.prepare_unauthenticated_iff turn.current
        (turns_buffered member) named).mpr ⟨uncached, unknown⟩)

end

/-- Default settings but for a proxy that asks for credentials. -/
def proxiedConfig : Config := { Config.default with proxy := some ⟨"h", 80, some "bob", some "pw"⟩ }

/-- A request to the host and the port of the proxy. -/
def proxyRequest : Http.Request :=
  .create "GET" ⟨"http".toList, [], ['h'], none, ['/', 'a'], none, none⟩ .empty .none

attribute [local instance] Codecs.plain in
/-- Once the credentials are forgotten, an open client with a proxy sends a request to the proxy's
    own place without any. -/
theorem forgotten_unauthorized :
    ∃ c, Reachable c ∧ c.closed = false ∧
      ∃ sent ∈ Event.requests (c.execute proxyRequest (.ofOutcomes 0 fun _ => .status 200)).events,
        (Exchange.onWire sent).headers.contains Http.FieldName.authorization = false := by
  obtain ⟨created, built, isOpen, sends⟩ : ∃ created, create proxiedConfig none = .ok created ∧
      (created.value.act .forgetCredentials).closed = false ∧
        ∃ sent ∈ Event.requests ((created.value.act .forgetCredentials).execute proxyRequest
            (.ofOutcomes 0 fun _ => .status 200)).events,
          (Exchange.onWire sent).headers.contains Http.FieldName.authorization = false :=
    ⟨_, rfl, rfl, by decide +kernel⟩
  have new : created.value.IsNew :=
    ⟨_, _, none, created, Config.create_names none none _, built, rfl⟩
  exact ⟨_, .act .forgetCredentials (.new new), isOpen, sends⟩

end Client

end Courier
