import Courier.Proofs.Turns

/-!
# Calls in step

What a call does about the outcome of a send rests on the request it has come to, on its counters
and on the policies of its client, and on nothing else: two calls with the same of these are in step
(`Call.InStep`). When their sends give the same, they emit the same records, wait as long, and end
alike or are in step again.

The events of a turn are the records of preparing its request, and then what the turn does by itself
(`Call.deeds`).
-/

namespace Courier

/-- The time that an event waits. -/
def Event.wait? : Event → Option Number
  | wait interval => some interval
  | record _ | send _ => none

/-- The waits among events. -/
def Event.waits (events : List Event) : List Number := events.filterMap Event.wait?

@[simp] theorem Event.waits_ofRecords (records : List Log.Record) :
    Event.waits (Event.ofRecords records) = [] := by
  simp [Event.waits, Event.ofRecords, Event.wait?]

@[simp] theorem Event.waits_append (first second : List Event) :
    Event.waits (first ++ second) = Event.waits first ++ Event.waits second := by
  simp [Event.waits]

namespace Call

/-- Calls that have come to the same request with the same counters, made by clients with the same
    policies. -/
structure InStep (call call' : Call) : Prop where
  origin : call'.origin = call.origin
  current : call'.current = call.current
  context : call'.context = call.context
  logger : call'.client.logger = call.client.logger
  transportRetry : call'.client.transportRetry = call.client.transportRetry
  statusRetry : call'.client.statusRetry = call.client.statusRetry
  redirects : call'.client.redirects = call.client.redirects
  maxRedirects : call'.client.config.maxRedirects = call.client.config.maxRedirects

namespace InStep

variable [Codecs] {call call' : Call}

theorem verdict (inStep : call.InStep call') (given : Except Exchange.Error Http.Response) :
    call'.verdict given = call.verdict given := by
  cases given with
  | ok response =>
    simp only [Call.verdict, onResponse, onRedirect, inStep.current, inStep.context,
      inStep.statusRetry, inStep.maxRedirects]
  | error error =>
    cases error with
    | fault fault =>
      simp only [Call.verdict, onFault, inStep.current, inStep.context, inStep.transportRetry]
    | url error => rfl
    | name error => rfl
    | site error => rfl

omit [Codecs] in
theorem settle (inStep : call.InStep call') (verdict : Verdict) :
    (call.settle verdict).InStep (call'.settle verdict) := by
  cases verdict with
  | again => exact { inStep with context := congrArg RetryContext.nextAttempt inStep.context }
  | follow url =>
    exact { inStep with
      current := congrArg (Redirect.followUp · url) inStep.current
      context := congrArg RetryContext.countRedirect inStep.context }
  | answer response => exact inStep
  | fail failure => exact inStep

theorem afterSend (inStep : call.InStep call') (cookies cookies' : Http.CookieJar) :
    (call.afterSend cookies).InStep (call'.afterSend cookies') :=
  { inStep with context := congrArg RetryContext.countSend inStep.context }

theorem afterRedirect (inStep : call.InStep call') (response : Http.Response) :
    (call'.afterRedirect response).events = (call.afterRedirect response).events := by
  simp only [Call.afterRedirect, inStep.current, inStep.context, inStep.redirects,
    inStep.maxRedirects]
  split
  · rfl
  · cases (call.client.redirects.followUp call.current response).value <;> rfl

/-- Calls in step whose sends give the same for the same line emit the same records and wait as
    long. -/
theorem receive (inStep : call.InStep call') {wire wire' : Http.Request}
    (method : wire'.method = wire.method) (url : wire'.url = wire.url)
    (given : Except Exchange.Error Http.Response) :
    (call'.receive wire' given).events = (call.receive wire given).events := by
  cases given with
  | error error =>
    cases error with
    | fault fault =>
      simp only [Call.receive, afterFault, inStep.current, inStep.context, inStep.transportRetry]
      split
      · split <;> rfl
      · rfl
    | url error => rfl
    | name error => rfl
    | site error => rfl
  | ok response =>
    -- of the request on the wire, the records tell its line only
    have failed : ∀ attempt, call.client.statusRetry.shouldRetry response (some wire') attempt =
        call.client.statusRetry.shouldRetry response (some wire) attempt := by
      intro attempt
      simp only [StatusRetry.shouldRetry, StatusRetry.failureRecord, Option.map_some,
        Http.Request.line, method, url]
    have completed : call'.completionRecords response = call.completionRecords response := by
      simp only [completionRecords, inStep.origin, inStep.context, inStep.logger]
    simp only [Call.receive, afterResponse, completed, inStep.current, inStep.context,
      inStep.redirects,
      inStep.statusRetry, failed, apply_ite Step.events, inStep.afterRedirect response]

end InStep

theorem inStep_of_continues {call call' : Call}
    (continues : call.client.Continues call'.client) (origin : call'.origin = call.origin)
    (current : call'.current = call.current) (context : call'.context = call.context) :
    call.InStep call' := by
  obtain ⟨_, _, _, same⟩ := continues
  exact ⟨origin, current, context, by rw [same], by rw [same], by rw [same], by rw [same],
    by rw [same]⟩

/-! ## The events of a turn -/

variable [Codecs] (script : Exchange.Script)

/-- What a turn does once its request is prepared. -/
def deeds (turn : Call) : List Event :=
  match turn.sending? with
  | some s => .send s.outgoing :: ((s.after script).receive s.wire (s.sent script).given).events
  | none => []

theorem events_advance (turn : Call) :
    (turn.advance script).events =
      Event.ofRecords (turn.client.prepare turn.current).records ++ turn.deeds script := by
  unfold deeds sending?
  cases prepared : (turn.client.prepare turn.current).value.2 with
  | error failure => simp [advance, step, prepared, fail]
  | ok outgoing =>
    simp only [advance, step, prepared, Client.prepare_client]
    rfl

variable {script} in
theorem deeds_of_refused {turn : Call} {failure : Failure}
    (refused : (turn.client.prepare turn.current).value.2 = .error failure) :
    turn.deeds script = [] := by
  simp only [deeds, sending?, refused]

theorem deeds_of_sent {turn : Call} {outgoing : Http.Request}
    (prepared : (turn.client.prepare turn.current).value.2 = .ok outgoing) :
    let s : Sending := ⟨turn, outgoing⟩
    turn.deeds script = .send outgoing ::
      ((s.after script).receive s.wire (s.sent script).given).events := by
  simp only [deeds, sending?, prepared]

end Call

end Courier
