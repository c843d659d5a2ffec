import Courier.Proofs.Case
import Courier.Proofs.Retrials

/-!
# What a call tells of itself

Of the events of a call, its sends, its waits and its warnings are noticed outside of it
(`Event.notable`). `Call.Accounts` says what they are to be for the sends of a call: each one that
failed is told by its request, and then the retry by its number, if there is one. The next send is
the same one. What is to be seen for this is that a retry that was decided on always happens: the
target has an auth state by now, so the request is prepared as before (`Client.prepare_again`), and
a call with limits is never out of steps.
-/

namespace Courier

/-- Records among which there is no warning. -/
def Log.Quiet (records : List Log.Record) : Prop := ∀ record ∈ records, record.level ≠ .warning

namespace Log

@[simp] theorem quiet_nil : Quiet [] := by simp [Quiet]

@[simp] theorem quiet_cons (record : Record) (records : List Record) :
    Quiet (record :: records) ↔ record.level ≠ .warning ∧ Quiet records := by
  simp [Quiet]

@[simp] theorem quiet_append (first second : List Record) :
    Quiet (first ++ second) ↔ Quiet first ∧ Quiet second := by
  simp [Quiet, or_imp, forall_and]

@[simp] theorem Record.plain_level (logger message : String) :
    (plain logger message).level ≠ .warning := by
  simp [plain, Level.debug, Level.warning]

end Log

namespace Event

/-- Whether an event is a send, a wait or a warning. -/
def isNotable : Event → Bool
  | .record told => told.level = .warning
  | .send _ | .wait _ => true

/-- The sends, the waits and the warnings among events. -/
def notable (events : List Event) : List Event := events.filter isNotable

@[simp] theorem notable_append (first second : List Event) :
    notable (first ++ second) = notable first ++ notable second := List.filter_append ..

theorem notable_ofRecords_of_quiet {records : List Log.Record} (quiet : Log.Quiet records) :
    notable (ofRecords records) = [] := by
  simpa [notable, ofRecords, isNotable, Log.Quiet] using quiet

end Event

namespace Log.Record

/-- A warning that the send of a request failed. -/
structure TellsFailureOf (record : Record) (sent : Http.Request) : Prop where
  level : record.level = .warning
  message : ∃ reason,
    record.message = s!"Error occurred for request {sent.method} {sent.url} HTTP/1.1" ++ reason
  method : record.fields.lookup "method" = some (.string sent.method)
  url : record.fields.lookup "url" = some (.string (toString sent.url))

theorem TellsFailureOf.of_same {record : Record} {sent sent' : Http.Request}
    (tells : record.TellsFailureOf sent) (method : sent'.method = sent.method)
    (url : sent'.url = sent.url) :
    record.TellsFailureOf sent' where
  level := tells.level
  message := by rw [method, url]; exact tells.message
  method := by rw [method]; exact tells.method
  url := by rw [url]; exact tells.url

/-- A warning that a request is sent again, as the retry of this number. -/
structure TellsRetry (record : Record) (number : Int) : Prop where
  level : record.level = .warning
  message : record.message = s!"Attempting retry #{number}"
  attempt : record.fields.lookup "attempt" = some (.integer number)

end Log.Record

namespace Call

/-- The wait before a request is sent again: there is one after a status, if the interval is above
    zero. -/
def pause (interval : Number) : Except Exchange.Error Http.Response → List Event
  | .ok _ => if Number.less 0 interval then [.wait interval] else []
  | .error _ => []

/-- The notable events that go with sends, when the next retry has this number. -/
inductive Accounts (script : Exchange.Script) (interval : Number) :
    Int → List Sending → List Event → Prop
  | done (number : Int) : Accounts script interval number [] []
  | passed {number : Int} {s : Sending} {rest : List Sending} {events : List Event} :
      Exchange.isFailure (s.sent script).given = false →
        Accounts script interval number rest events →
        Accounts script interval number (s :: rest) (.send s.outgoing :: events)
  | given_up {number : Int} {s : Sending} {failure : Log.Record} :
      Exchange.isFailure (s.sent script).given = true → failure.TellsFailureOf s.outgoing →
        Accounts script interval number [s] [.send s.outgoing, .record failure]
  | retried {number : Int} {s next : Sending} {rest : List Sending} {failure retry : Log.Record}
      {events : List Event} :
      Exchange.isFailure (s.sent script).given = true → failure.TellsFailureOf s.outgoing →
        retry.TellsRetry number → next.outgoing = s.outgoing →
          Accounts script interval (number + 1) (next :: rest) events →
            Accounts script interval number (s :: next :: rest)
              (.send s.outgoing :: .record failure :: .record retry ::
                (pause interval (s.sent script).given ++ events))

end Call

/-! ## The records -/

theorem CredentialStore.lookup_quiet (s : CredentialStore) (target : Scope) :
    Log.Quiet (s.lookup target).records := by
  unfold lookup
  cases s.find? target <;> simp

theorem AuthCache.commit_quiet (c : AuthCache) (host : Scope) (state : AuthState) :
    Log.Quiet (c.commit host state).records := by
  unfold commit
  simp only [apply_ite Log.Quiet]
  split <;> simp

theorem Session.authenticate_quiet (s : Session) (target : Scope) :
    Log.Quiet (s.authenticate target).records := by
  have looked := s.store.lookup_quiet target
  unfold authenticate
  cases s.cache.get? target with
  | some state => exact Log.quiet_nil
  | none =>
    cases found : (s.store.lookup target).value with
    | none => simpa [found] using looked
    | some credentials => simp [found, looked, AuthCache.commit_quiet]

theorem Session.resolve_quiet (s : Session) (state : AuthState) (target : Scope) :
    Log.Quiet (s.resolve state target).records := by
  unfold resolve
  cases state.credentials with
  | none => exact s.store.lookup_quiet target
  | some credentials => exact Log.quiet_nil

/-- Preparing a request gives no warning. -/
theorem Client.prepare_quiet [Codecs] (c : Client) (request : Http.Request) :
    Log.Quiet (c.prepare request).records := by
  unfold prepare
  cases Scope.ofUrl request.url with
  | error error => exact Log.quiet_nil
  | ok target =>
    have authenticated := c.session.authenticate_quiet target
    simp only
    split
    · exact authenticated
    · split
      · exact authenticated
      · simp [authenticated, Session.resolve_quiet]

theorem RedirectPolicy.isRedirected_quiet (p : RedirectPolicy) (request : Http.Request)
    (response : Http.Response) : Log.Quiet (p.isRedirected request response).records := by
  unfold isRedirected isRedirectable
  cases Redirect.statuses.contains response.status <;>
    cases response.headers.contains Http.FieldName.location <;>
      cases response.status == 303 <;>
        cases Redirect.followsMethod request.method <;>
          simp [Log.Record.plain, Log.Level.debug, Log.Level.error, Log.Level.warning]

theorem RedirectPolicy.followUp_quiet [Codecs] (p : RedirectPolicy) (request : Http.Request)
    (response : Http.Response) : Log.Quiet (p.followUp request response).records := by
  unfold followUp
  cases Redirect.target request.url response.headers <;> simp [Log.Level.debug, Log.Level.warning]

namespace Call

variable (call : Call)

theorem afterRedirect_quiet [Codecs] (response : Http.Response) :
    Event.notable (call.afterRedirect response).events = [] := by
  have followed := call.client.redirects.followUp_quiet call.current response
  unfold afterRedirect
  simp only
  split
  · rfl
  · cases (call.client.redirects.followUp call.current response).value with
    | error error => exact Event.notable_ofRecords_of_quiet followed
    | ok next => exact Event.notable_ofRecords_of_quiet followed

theorem completionRecords_quiet (response : Http.Response) :
    Log.Quiet (call.completionRecords response) := by
  unfold completionRecords
  split <;> simp

theorem notable_waits (interval : Number) : Event.notable (waits interval) = waits interval := by
  unfold waits
  split
  · simp [Event.notable, Event.isNotable]
  · rfl

/-- After a send that did not fail there is nothing to notice. -/
theorem notable_receive_of_passes [Codecs] (wire : Http.Request)
    {given : Except Exchange.Error Http.Response} (passes : Exchange.isFailure given = false) :
    Event.notable (call.receive wire given).events = [] := by
  cases given with
  | error error =>
    cases error with
    | fault fault =>
      rw [Exchange.isFailure] at passes
      simp [receive, afterFault, passes, fail, Event.notable]
    | url error => rfl
    | name error => rfl
    | site error => rfl
  | ok response =>
    have low : StatusRetry.isFailure response = false := passes
    have redirected := call.client.redirects.isRedirected_quiet call.current response
    simp only [receive, afterResponse, StatusRetry.shouldRetry, low, Bool.false_eq_true, if_false]
    split
    · simp only [Event.notable_append, Event.notable_ofRecords_of_quiet redirected,
        afterRedirect_quiet]
      rfl
    · simp only [Event.notable_append, Event.notable_ofRecords_of_quiet redirected,
        Event.notable_ofRecords_of_quiet (call.completionRecords_quiet response)]
      rfl

end Call

/-- The warning of a fault tells the failure of the request it is about. -/
theorem TransportRetry.failureRecord_tells (p : TransportRetry) (request : Http.Request)
    (fault : Fault)
    (kind : Fault.Kind) : (p.failureRecord request fault kind).TellsFailureOf request where
  level := rfl
  message := ⟨s!": {fault.text}.", by
    simp only [failureRecord, Http.Request.line, toString, String.append_assoc]⟩
  method := rfl
  url := rfl

theorem StatusRetry.failureRecord_tells (p : StatusRetry) (request : Http.Request)
    (response : Http.Response) :
    (p.failureRecord response (some request)).TellsFailureOf request where
  level := rfl
  message :=
    ⟨s!". Received status code {response.status} " ++ s!"and message: {response.reason}.",
      by simp only [failureRecord, Http.Request.line, Option.map_some, Option.getD_some, toString,
        String.append_assoc]⟩
  method := rfl
  url := rfl

/-- After a failure the policy of statuses tells it, and then the retry if it allows one. -/
theorem StatusRetry.shouldRetry_records_of_failure (p : StatusRetry) {response : Http.Response}
    (failed : isFailure response = true) (request : Option Http.Request) (attempt : Int) :
    (p.shouldRetry response request attempt).records =
      p.failureRecord response request ::
        if p.allows response attempt then [p.retryRecord response attempt] else [] := by
  simp only [shouldRetry, failed, if_true]
  split <;> rfl

theorem TransportRetry.retryRecord_tells (p : TransportRetry) (kind : Fault.Kind) (number : Int) :
    (p.retryRecord kind number).TellsRetry number := ⟨rfl, rfl, rfl⟩

theorem StatusRetry.retryRecord_tells (p : StatusRetry) (response : Http.Response) (number : Int) :
    (p.retryRecord response number).TellsRetry number := ⟨rfl, rfl, rfl⟩

/-! ## The events of a failed send -/

namespace Call

variable (call : Call)

/-- A failure is no redirect to follow. -/
theorem not_follows_of_failure {method : String} {response : Http.Response}
    (failed : StatusRetry.isFailure response = true) :
    Redirect.follows method response = false := by
  rw [← Bool.not_eq_true]
  intro follows
  have status := Redirect.status_of_follows follows
  simp only [StatusRetry.isFailure, decide_eq_true_eq] at failed
  omega

/-- After a failed send, what is noticed is the failure, and then the retry and the wait before it,
    if the request is sent again. -/
theorem notable_receive_of_failure [Codecs] {sent wire : Http.Request}
    (method : sent.method = call.current.method) (url : sent.url = call.current.url)
    (method' : wire.method = sent.method) (url' : wire.url = sent.url)
    {given : Except Exchange.Error Http.Response} (failed : Exchange.isFailure given = true) :
    ∃ failure retry : Log.Record, failure.TellsFailureOf sent ∧
      retry.TellsRetry call.context.attempt ∧
      Event.notable (call.receive wire given).events = .record failure ::
        if (call.verdict given).isAgain then .record retry ::
          pause call.client.statusRetry.interval given
        else [] := by
  cases given with
  | error error =>
    cases error with
    | url error => cases failed
    | name error => cases failed
    | site error => cases failed
    | fault fault =>
      have transport : fault.category.isTransport = true := failed
      have tells := call.client.transportRetry.failureRecord_tells call.current fault fault.kind
      refine ⟨_, _, tells.of_same method url,
        call.client.transportRetry.retryRecord_tells fault.kind _, ?_⟩
      simp only [receive, afterFault, verdict, onFault, transport, if_true,
        TransportRetry.shouldRetry]
      split
      · rfl
      · rfl
  | ok response =>
    have high : StatusRetry.isFailure response = true := failed
    have tells := call.client.statusRetry.failureRecord_tells wire response
    refine ⟨_, _, tells.of_same method'.symm url'.symm,
      call.client.statusRetry.retryRecord_tells response _, ?_⟩
    have redirected := call.client.redirects.isRedirected_quiet call.current response
    simp only [receive, afterResponse, verdict, onResponse, StatusRetry.shouldRetry_value,
      StatusRetry.shouldRetry_records_of_failure _ high, RedirectPolicy.isRedirected_value,
      not_follows_of_failure high]
    split
    · simp only [Event.notable_append, notable_waits]
      rfl
    · simp only [Bool.false_eq_true, if_false, Event.notable_append,
        Event.notable_ofRecords_of_quiet redirected,
        Event.notable_ofRecords_of_quiet (call.completionRecords_quiet response)]
      rfl

end Call

/-! ## Whole calls -/

theorem Verdict.eq_again {verdict : Verdict} (again : verdict.isAgain = true) :
    verdict = .again := by
  cases verdict with
  | again => rfl
  | follow url => cases again
  | answer response => cases again
  | fail failure => cases again

/-- A request that was prepared is prepared in the same way again, whatever the cookies are by
    then. -/
theorem Client.prepare_again [Codecs] {c : Client} {request outgoing : Http.Request}
    (prepared : (c.prepare request).value.2 = .ok outgoing) (cookies : Http.CookieJar) :
    let c' := { c with session := c.preparedSession request, cookies }
    (c'.prepare request).value.2 = .ok outgoing := by
  intro c'
  obtain ⟨named, state, given, ok⟩ := c.prepare_state request prepared
  have session : c'.session = (c.session.authenticate request.url.scope).value.session :=
    preparedSession_of_named c named
  have again : (c'.session.authenticate request.url.scope).value = ⟨c'.session, some state⟩ := by
    rw [session]
    exact Session.authenticate_of_cached (Session.get?_of_authenticate given)
  have presents : c'.presented? request state = c.presented? request state := by
    simp only [presented?, Session.resolve_value, session, Session.authenticate_store]
  rw [prepare_request, Scope.ofUrl_of_named named]
  simp only [again]
  rw [outgoingRequest, presents]
  exact ok

/-- After a failure a call sends the request again or ends. -/
theorem Call.result_of_failure [Codecs] (call : Call) {given : Except Exchange.Error Http.Response}
    (failed : Exchange.isFailure given = true) (once : (call.verdict given).isAgain = false)
    (sent : Http.Request) : ∃ result, (call.verdict given).result sent = some result := by
  cases verdict : call.verdict given with
  | again =>
    rw [verdict] at once
    cases once
  | follow url =>
    obtain ⟨response, rfl, status⟩ := given_of_follow verdict
    rw [isFailure_of_low (by omega)] at failed
    cases failed
  | answer response => exact ⟨_, rfl⟩
  | fail failure => exact ⟨_, rfl⟩

namespace Call

theorem settle_attempt (call : Call) (verdict : Verdict) :
    (call.settle verdict).context.attempt =
    call.context.attempt + if verdict.isAgain then 1 else 0 := by
  cases verdict <;> simp [settle, Verdict.isAgain, RetryContext.nextAttempt,
    RetryContext.countRedirect]

theorem settle_upper (call : Call) (upper : Text.upper call.current.method = call.current.method)
    (verdict : Verdict) :
    Text.upper (call.settle verdict).current.method = (call.settle verdict).current.method := by
  cases verdict with
  | follow url => exact Text.upper_upper _
  | again => exact upper
  | answer response => exact upper
  | fail failure => exact upper

end Call

section

variable [Codecs]

namespace Call

variable {script : Exchange.Script}

variable (script) in
/-- What is noticed of a step that sends something is the send, and then what comes of it. -/
theorem notable_advance_of_sent {call : Call} {outgoing : Http.Request}
    (prepared : (call.client.prepare call.current).value.2 = .ok outgoing) :
    let s : Sending := ⟨call, outgoing⟩
    Event.notable (call.advance script).events =
      .send outgoing :: Event.notable
        ((s.after script).receive s.wire (s.sent script).given).events := by
  intro s
  rw [events_advance, Event.notable_append,
    Event.notable_ofRecords_of_quiet (call.client.prepare_quiet call.current), List.nil_append,
    deeds_of_sent script prepared]
  rfl

/-- What is noticed of a step whose send fails is the send, the failure, and the retry if there is
    one. -/
theorem notable_advance_of_failure {call : Call} {outgoing : Http.Request}
    (prepared : (call.client.prepare call.current).value.2 = .ok outgoing)
    (upper : Text.upper call.current.method = call.current.method)
    (failed : Exchange.isFailure (Sending.sent script ⟨call, outgoing⟩).given = true) :
    let s : Sending := ⟨call, outgoing⟩
    ∃ failure retry : Log.Record, failure.TellsFailureOf outgoing ∧
      retry.TellsRetry call.context.attempt ∧
      Event.notable (call.advance script).events = .send outgoing :: .record failure ::
        if (s.verdict script).isAgain then
          .record retry :: pause call.client.statusRetry.interval (s.sent script).given
        else [] := by
  intro s
  have method := (call.client.prepare_method _ prepared).trans upper
  obtain ⟨failure, retry, failing, retrying, received⟩ :=
    (s.after script).notable_receive_of_failure method
    (call.client.prepare_url _ prepared) (Exchange.onWire_method _) (Exchange.onWire_url _) failed
  refine ⟨failure, retry, failing, retrying, ?_⟩
  have sent := notable_advance_of_sent script prepared
  exact sent.trans (congrArg _ received)

/-- A request that is sent again is the same one. -/
theorem prepare_advance_of_again {call : Call} {outgoing : Http.Request}
    (prepared : (call.client.prepare call.current).value.2 = .ok outgoing)
    (again : Sending.verdict script ⟨call, outgoing⟩ = .again) :
    ((call.advance script).call.client.prepare (call.advance script).call.current).value.2 =
    .ok outgoing := by
  rw [(advance_of_sent script prepared).2, again]
  exact Client.prepare_again prepared _

theorem attempt_advance_of_sent {call : Call} {outgoing : Http.Request}
    (prepared : (call.client.prepare call.current).value.2 = .ok outgoing) :
    (call.advance script).call.context.attempt =
      call.context.attempt + if (Sending.verdict script ⟨call, outgoing⟩).isAgain then 1 else
        0 := by
  rw [(advance_of_sent script prepared).2, settle_attempt, Sending.after_attempt]

section Sends

variable (fuel : Nat) {call : Call} {outgoing : Http.Request}
  (prepared : (call.client.prepare call.current).value.2 = .ok outgoing)
  (rest : (call.advance script).result = none →
    Accounts script call.client.statusRetry.interval (call.advance script).call.context.attempt
      (sendings script fuel (call.advance script).call)
      (Event.notable ((call.advance script).call.run script fuel).events))

include prepared rest

theorem accounts_of_passes
    (passes : Exchange.isFailure (Sending.sent script ⟨call, outgoing⟩).given = false) :
    Accounts script call.client.statusRetry.interval call.context.attempt
      (sendings script (fuel + 1) call)
      (Event.notable (call.run script (fuel + 1)).events) := by
  have sent := notable_advance_of_sent script prepared
  have once : (Sending.verdict script ⟨call, outgoing⟩).isAgain = false := isAgain_of_passes passes
  have attempt : (call.advance script).call.context.attempt = call.context.attempt := by
    rw [attempt_advance_of_sent prepared, once]
    exact Int.add_zero _
  simp only [notable_receive_of_passes _ _ passes] at sent
  rw [run_succ, sendings_succ_of_sent script fuel prepared]
  cases ended : (call.advance script).result with
  | some result =>
    simp only [finish, sent]
    exact .passed passes (.done _)
  | none =>
    simp only [Event.notable_append, sent]
    rw [attempt] at rest
    exact .passed passes (rest ended)

theorem accounts_of_failure (upper : Text.upper call.current.method = call.current.method)
    (failed : Exchange.isFailure (Sending.sent script ⟨call, outgoing⟩).given = true)
    (finished : (call.run script (fuel + 1)).result ≠ .error .unfinished) :
    Accounts script call.client.statusRetry.interval call.context.attempt
      (sendings script (fuel + 1) call)
      (Event.notable (call.run script (fuel + 1)).events) := by
  let s : Sending := ⟨call, outgoing⟩
  obtain ⟨failure, retry, failing, retrying, noticed⟩ :=
    notable_advance_of_failure prepared upper failed
  have result := (advance_of_sent script prepared).1
  rw [run_succ] at finished ⊢
  rw [sendings_succ_of_sent script fuel prepared]
  cases again : (s.verdict script).isAgain with
  | false =>
    obtain ⟨ended, ends⟩ := (s.after script).result_of_failure failed again s.wire
    rw [again] at noticed
    simp only [result.trans ends, finish, noticed]
    exact .given_up failed failing
  | true =>
    have repeats : s.verdict script = .again := Verdict.eq_again again
    have attempt : (call.advance script).call.context.attempt = call.context.attempt + 1 := by
      rw [attempt_advance_of_sent prepared, again, if_pos rfl]
    rw [again] at noticed
    rw [repeats] at result
    simp only [Verdict.result] at result
    rw [attempt] at rest
    rw [result] at finished ⊢
    simp only [Event.notable_append, noticed]
    obtain - | fuel := fuel
    · exact absurd rfl finished
    · rw [sendings_succ_of_sent script fuel (prepare_advance_of_again prepared repeats)] at rest ⊢
      exact .retried failed failing retrying rfl (rest result)

end Sends

/-- The notable events of a run that reaches an end go with its sends. -/
theorem accounts_run (fuel : Nat) (call : Call)
    (upper : Text.upper call.current.method = call.current.method)
    (finished : (call.run script fuel).result ≠ .error .unfinished) :
    Accounts script call.client.statusRetry.interval call.context.attempt
      (sendings script fuel call)
      (Event.notable (call.run script fuel).events) := by
  induction fuel generalizing call with
  | zero => exact absurd rfl finished
  | succ fuel ih =>
    cases prepared : (call.client.prepare call.current).value.2 with
    | error failure =>
      have quiet := Event.notable_ofRecords_of_quiet (call.client.prepare_quiet call.current)
      rw [run_succ, sendings, prepared]
      simp only [(advance_of_refused prepared).1, finish, events_advance, deeds_of_refused prepared,
        List.append_nil, quiet]
      exact .done _
    | ok outgoing =>
      have rest : (call.advance script).result = none →
          Accounts script call.client.statusRetry.interval
            (call.advance script).call.context.attempt
            (sendings script fuel (call.advance script).call)
            (Event.notable ((call.advance script).call.run script fuel).events) := by
        intro going
        rw [run_succ, going] at finished
        rw [← (call.advance_continues script).statusRetry]
        refine ih _ ?_ finished
        rw [(advance_of_sent script prepared).2]
        exact (Sending.after script ⟨call, outgoing⟩).settle_upper upper _
      cases failed : Exchange.isFailure (Sending.sent script ⟨call, outgoing⟩).given with
      | false => exact accounts_of_passes fuel prepared rest failed
      | true => exact accounts_of_failure fuel prepared rest upper failed finished

end Call

namespace Client

/-- Nothing that is done with a client changes how long it waits before it sends again. -/
theorem act_interval (c : Client) (action : Action) :
    (c.act action).statusRetry.interval = c.statusRetry.interval := by
  cases action with
  | execute request script => rw [act, (c.execute_continues request script).statusRetry]
  | close fault =>
    rw [act, close_client]
    split <;> rfl
  | _ => rfl

theorem after_statusRetry (c : Client) (actions : List Action) :
    (c.after actions).statusRetry.interval = c.statusRetry.interval ∧
      (c.after actions).statusRetry.maxRetries = c.statusRetry.maxRetries := by
  induction actions using List.reverseRecOn with
  | nil => exact ⟨rfl, rfl⟩
  | append_singleton actions action ih =>
    rw [after_concat, act_interval, (act_maxRetries _ _).2]
    exact ih

theorem after_transportRetry (c : Client) (actions : List Action) :
    (c.after actions).transportRetry.maxRetries = c.transportRetry.maxRetries := by
  induction actions using List.reverseRecOn with
  | nil => rfl
  | append_singleton actions action ih => rw [after_concat, (act_maxRetries _ _).1, ih]

/-- A client keeps to the budgets it was created with, and to those it is told later for
    redirects. -/
theorem limits_after {config : Config} {logger : Option String} {created : Logged Client}
    (built : create config logger = .ok created) (actions : List Action) {retries redirects : Int}
    (retriesGiven : config.maxRetries = .integer retries)
    (redirectsGiven : (created.value.after actions).config.maxRedirects = .integer redirects) :
    ∃ retryLimit : Nat, (created.value.after actions).Limits retryLimit redirects.toNat := by
  have made := create_madeFrom built
  obtain ⟨retryLimit, retryCount⟩ := Config.retryCount_integer retriesGiven
  refine ⟨retryLimit, ?_, ?_, ?_⟩
  · rw [after_transportRetry, made.transportRetries, retryCount]
    rfl
  · rw [(after_statusRetry _ _).2, made.statusRetries, retryCount]
    rfl
  · rw [redirectsGiven]
    rfl

/-- Whatever was done with a client before, and whatever its sends give, what a call with integer
    budgets lets notice goes with its sends. -/
theorem execute_accounts {config : Config} {logger : Option String} {created : Logged Client}
    (built : create config logger = .ok created) (actions : List Action) {retries redirects : Int}
    (retriesGiven : config.maxRetries = .integer retries)
    (redirectsGiven : (created.value.after actions).config.maxRedirects = .integer redirects)
    {request : Http.Request} (upper : Text.upper request.method = request.method)
    (script : Exchange.Script) :
    let c := created.value.after actions
    Call.Accounts script config.retryInterval 1 (c.sendings request script)
      (Event.notable (c.execute request script).events) := by
  intro c
  have interval : (Call.start c request).client.statusRetry.interval = config.retryInterval := by
    obtain ⟨connected, -, value⟩ := create_value built
    rw [Call.start, (after_statusRetry created.value actions).1, value]
  obtain ⟨_, limits⟩ := limits_after built actions retriesGiven redirectsGiven
  have finished := execute_finishes limits request script
  cases closed : c.closed with
  | true =>
    simp only [execute, sendings, closed, if_true]
    exact .done 1
  | false =>
    rw [execute_of_open closed] at finished ⊢
    have accounts := Call.accounts_run c.maxSends (Call.start c request) upper finished
    rw [← sendings_of_open closed, interval] at accounts
    exact accounts

end Client

end

namespace Client

attribute [local instance] Codecs.plain

theorem execute_accounts_troubled :
    ∃ created, create .default none = .ok created ∧ Config.default.maxRetries = .integer (-1) ∧
      created.value.config.maxRedirects = .integer 50 ∧ Text.upper "GET" = "GET" ∧
      Call.Accounts troubled.script Config.default.retryInterval 1
        (created.value.sendings (.toHost "GET" .none) troubled.script)
        (Event.notable (created.value.execute (.toHost "GET" .none) troubled.script).events) := by
  obtain ⟨created, built, redirects⟩ : ∃ created, create .default none = .ok created ∧
      created.value.config.maxRedirects = .integer 50 := ⟨_, rfl, rfl⟩
  have upper : Text.upper "GET" = "GET" := by decide
  have method : Text.upper (Http.Request.toHost "GET" .none).method =
    (Http.Request.toHost "GET" .none).method :=
    Text.upper_upper "GET"
  exact ⟨created, built, rfl, redirects, upper,
    execute_accounts built [] rfl redirects method troubled.script⟩

end Client

end Courier
