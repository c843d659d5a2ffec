import Courier.Client.Basic

/-!
# Executing a request

A call sends a request until it reaches an outcome that ends it. After a fault and after a status
above 500 the retry policies decide whether the same request is sent again; a redirect to follow
leads to the next request; anything else is the answer of the call.

`Call.step` is one send with all that it leads to, as a function of what the send gives. `Call.run`
repeats it over a script of sends and collects the events: records, sends and waits, in the order in
which they happen. The number of steps is bounded by the budgets of retries and
redirects; where one of these has no bound, the run stops as unfinished after `longRun` steps.
-/

namespace Courier

/-- What happens during a call. -/
inductive Event where
  | record (record : Log.Record)
  /-- A request is sent; what reaches the transport is `Exchange.onWire` of it. -/
  | send (request : Http.Request)
  /-- The call waits, in seconds. -/
  | wait (interval : Number)
  deriving Inhabited, Repr

/-- The records of a step as events. -/
def Event.ofRecords (records : List Log.Record) : List Event := records.map .record

/-- The answer of a call: the response, and the request that got it. -/
structure Answer where
  response : Http.Response
  request : Http.Request
  deriving Inhabited, Repr

/-- A call in progress. -/
structure Call where
  client : Client
  /-- The request the caller gave. -/
  origin : Http.Request
  /-- The request to send next, which is another one after a redirect. -/
  current : Http.Request
  context : RetryContext
  deriving Repr

namespace Call

/-- A call at its start, for a request whose body is read now. -/
def start (client : Client) (request : Http.Request) : Call :=
  ⟨client, request.read, request.read, .start client.config.retryCount⟩

/-- One step of a call: what happened, the call afterwards, and how it ended if it did. -/
structure Step where
  events : List Event
  call : Call
  result : Option (Except Failure Answer)

/-- The step that ends a call with a failure. -/
def fail (call : Call) (events : List Event) (failure : Failure) : Step :=
  ⟨events, call, some (.error failure)⟩

/-- After a failed send: another attempt, or the error of the transport. A fault that is not one of
    the transport comes out as it is. -/
def afterFault (call : Call) (fault : Fault) : Step :=
  if fault.category.isTransport then
    let policy := call.client.transportRetry
    let failed := policy.failureRecord call.current fault fault.kind
    let retry := policy.shouldRetry fault.kind call.context.attempt (some call.current)
      fault.mayHaveBeenSent
    let events := Event.ofRecords (failed :: retry.records)
    if retry.value then ⟨events, { call with context := call.context.nextAttempt }, none⟩
    else
      call.fail events (.client (.failedSend call.current fault call.context.sends))
  else call.fail [] (.fault fault)

/-- After a redirect to follow: the next request, or the error of too many redirects. -/
def afterRedirect [Codecs] (call : Call) (response : Http.Response) : Step :=
  let limit := call.client.config.maxRedirects
  if limit.atMost (.integer call.context.redirects) then
    call.fail [] (.client (.redirectLimit limit))
  else
    let followed := call.client.redirects.followUp call.current response
    let events := Event.ofRecords followed.records
    match followed.value with
    | .error error => call.fail events (.ofRedirect error)
    | .ok next =>
      ⟨events, { call with current := next, context := call.context.countRedirect }, none⟩

/-- The record of a call that took more than one send. -/
def completionRecords (call : Call) (response : Http.Response) : List Log.Record :=
  if 1 < call.context.sends then
    [.plain call.client.logger
      (s!"{call.origin.method} request to {call.origin.url} completed with status "
        ++ s!"{response.status} after {call.context.sends} sends")]
  else []

/-- The time to wait before another attempt after a status, if there is any. -/
def waits (interval : Number) : List Event :=
  if Number.less 0 interval then [.wait interval] else []

/-- After a response to the request `sent`: another attempt, a redirect, or the answer. -/
def afterResponse [Codecs] (call : Call) (sent : Http.Request) (response : Http.Response) : Step :=
  let policy := call.client.statusRetry
  let retry := policy.shouldRetry response (some sent) call.context.attempt
  let events := Event.ofRecords retry.records
  if retry.value then
    ⟨events ++ waits policy.interval, { call with context := call.context.nextAttempt }, none⟩
  else
    let redirected := call.client.redirects.isRedirected call.current response
    let events := events ++ Event.ofRecords redirected.records
    if redirected.value then
      let step := call.afterRedirect response
      { step with events := events ++ step.events }
    else
      ⟨events ++ Event.ofRecords (call.completionRecords response), call,
        some (.ok ⟨response, sent⟩)⟩

/-- What a send of the request `wire` leads to, given what it gives. -/
def receive [Codecs] (call : Call) (wire : Http.Request)
    (given : Except Exchange.Error Http.Response) : Step :=
  match given with
  | .error (.fault fault) => call.afterFault fault
  | .error (.url error) => call.fail [] (.url error)
  | .error (.name error) => call.fail [] (.name error)
  | .error (.site error) => call.fail [] (.site error)
  | .ok response => call.afterResponse wire response

/-- One send of a call, given what it gives for the cookies and the request on the wire. -/
def step [Codecs] (call : Call) (exchange : Http.CookieJar → Http.Request → Exchange.Sent) :
    Step :=
  let prepared := call.client.prepare call.current
  let call := { call with client := prepared.value.1 }
  let events := Event.ofRecords prepared.records
  match prepared.value.2 with
  | .error failure => call.fail events failure
  | .ok outgoing =>
    let wire := Exchange.onWire outgoing
    let sent := exchange call.client.cookies wire
    let call :=
      { call with
        client := { call.client with cookies := sent.cookies }, context := call.context.countSend }
    let step := call.receive wire sent.given
    { step with events := events ++ .send outgoing :: step.events }

/-- A finished call: what happened, the client and the caller's request afterwards, the number of
    sends, and the result. -/
structure Run where
  events : List Event
  client : Client
  request : Http.Request
  sends : Nat
  result : Except Failure Answer

/-- The call as it is, finished with a result after these events. -/
def finish (call : Call) (events : List Event) (result : Except Failure Answer) : Run :=
  ⟨events, call.client, call.origin, call.context.sends.toNat, result⟩

/-- Runs a call for at most so many steps, over a script of sends. -/
def run [Codecs] (script : Exchange.Script) : Nat → Call → Run
  | 0, call => call.finish [] (.error .unfinished)
  | fuel + 1, call =>
    let step := call.step (script call.context.sends.toNat)
    match step.result with
    | some result => step.call.finish step.events result
    | none =>
      let rest := run script fuel step.call
      { rest with events := step.events ++ rest.events }

end Call

/-- How often something may be repeated. -/
inductive Budget where
  | limited (count : Nat)
  | unlimited
  deriving DecidableEq, Repr

namespace Budget

/-- How many attempts `1, 2, …` are not above a number. -/
def ofRetries (n : Number) : Budget :=
  match n.floor? with
  | some count => limited count.toNat
  | none => if n.less 0 then limited 0 else unlimited

/-- How many counts `0, 1, …` of redirects are below a number. -/
def ofRedirects (n : Number) : Budget :=
  match n.ceiling? with
  | some count => limited count.toNat
  | none => if n.less 0 then limited 0 else unlimited

/-- The number of steps of a call for which one of the budgets has no limit. -/
def longRun : Nat := Nat.pow 2 62

/-- The number of steps within two budgets: each step but the last uses up one of them. -/
def steps : Budget → Budget → Nat
  | limited retries, limited redirects => retries + redirects + 1
  | _, _ => longRun

end Budget

namespace Client

/-- The greatest number of sends of a call. -/
def maxSends (c : Client) : Nat :=
  let retries := if c.transportRetry.maxRetries.less c.statusRetry.maxRetries
    then c.statusRetry.maxRetries else c.transportRetry.maxRetries
  Budget.steps (.ofRetries retries) (.ofRedirects c.config.maxRedirects)

/-- Executes a request, over a script of sends. -/
def execute [Codecs] (c : Client) (request : Http.Request) (script : Exchange.Script) : Call.Run :=
  if c.closed then ⟨[], c, request, 0, .error .closed⟩
  else (Call.start c request).run script c.maxSends

end Client

end Courier
