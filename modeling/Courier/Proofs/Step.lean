import Courier.Client.Execute
import Courier.Proofs.Prepare

/-!
# One step of a call

A step prepares a request, sends it, and decides what the outcome means. `Call.verdict` is that
decision on its own, without records and waits, and `Call.Decides` lists its cases with what each
rests on. `step_of_sent` and `step_of_refused` say what every step does in terms of it, and nothing
after them looks into `Call.step` again.
-/

namespace Courier

/-- What a call does about what a send gave. -/
inductive Verdict where
  /-- The same request is sent again, as another attempt. -/
  | again
  /-- A redirect to a URL is followed. -/
  | follow (url : Url)
  | answer (response : Http.Response)
  | fail (failure : Failure)

/-- The verdict about a redirect whose target is this. -/
def Verdict.ofTarget : Except Redirect.Error Url → Verdict
  | .ok url => .follow url
  | .error error => .fail (.ofRedirect error)

/-- What a verdict ends a call with, if it ends it; `sent` is the request that got the answer. -/
def Verdict.result (sent : Http.Request) : Verdict → Option (Except Failure Answer)
  | again | follow _ => none
  | answer response => some (.ok ⟨response, sent⟩)
  | fail failure => some (.error failure)

theorem Verdict.eq_fail_of_result {verdict : Verdict} {sent : Http.Request} {failure : Failure}
    (ended : verdict.result sent = some (.error failure)) : verdict = .fail failure := by
  cases verdict with
  | fail failure' => cases ended; rfl
  | answer response => cases ended
  | again => cases ended
  | follow url => cases ended

/-- The request that an event sends. -/
def Event.request? : Event → Option Http.Request
  | send request => some request
  | record _ | wait _ => none

/-- The requests that events send, in their order. -/
def Event.requests (events : List Event) : List Http.Request := events.filterMap Event.request?

@[simp] theorem Event.requests_ofRecords (records : List Log.Record) :
    Event.requests (Event.ofRecords records) = [] := by
  simp [Event.requests, Event.ofRecords, Event.request?]

@[simp] theorem Event.requests_append (first second : List Event) :
    Event.requests (first ++ second) = Event.requests first ++ Event.requests second := by
  simp [Event.requests]

theorem StatusRetry.shouldRetry_value (p : StatusRetry) (response : Http.Response)
    (request : Option Http.Request) (attempt : Int) :
    (p.shouldRetry response request attempt).value = p.allows response attempt := by
  unfold shouldRetry
  cases failed : isFailure response with
  | false => simp [allows, failed]
  | true => cases allowed : p.allows response attempt <;> rfl

theorem TransportRetry.shouldRetry_value (p : TransportRetry) (kind : Fault.Kind) (attempt : Int)
    (request : Option Http.Request) (maySent : Bool) :
    (p.shouldRetry kind attempt request maySent).value = p.allows kind attempt request maySent := by
  unfold shouldRetry
  cases p.allows kind attempt request maySent <;> rfl

theorem RedirectPolicy.isRedirected_value (p : RedirectPolicy) (request : Http.Request)
    (response : Http.Response) :
    (p.isRedirected request response).value = Redirect.follows request.method response := by
  unfold isRedirected Redirect.follows Redirect.hasTarget isRedirectable
  cases Redirect.statuses.contains response.status <;>
    cases response.headers.contains Http.FieldName.location <;>
      cases response.status == 303 <;>
        cases Redirect.followsMethod request.method <;> rfl

/-- A redirect that is followed has a status of redirects, which says that nothing failed. -/
theorem Redirect.status_of_follows {method : String} {response : Http.Response}
    (follows : Redirect.follows method response = true) : response.status ≤ 308 := by
  simp only [Redirect.follows, hasTarget, statuses, Bool.and_eq_true, List.contains_eq_mem,
    decide_eq_true_eq, List.mem_cons, List.not_mem_nil, or_false] at follows
  omega

section

variable [Codecs]

/-- The target of a redirect, if its host stands for a name. -/
def Redirect.reached (origin : Url) (headers : Http.Headers) : Except Error Url :=
  target origin headers >>= named

theorem Redirect.named_eq_ok {url url' : Url} :
    named url = .ok url' ↔ url = url' ∧ url.IsNamed := by
  unfold named Url.IsNamed
  rw [map_eq_ok]
  simp only [mapError_eq_ok]
  exact ⟨fun ⟨name, read, same⟩ => ⟨same, name, read⟩, fun ⟨same, name, read⟩ => ⟨name, read, same⟩⟩

theorem Redirect.reached_eq_ok {origin url : Url} {headers : Http.Headers} :
    reached origin headers = .ok url ↔ target origin headers = .ok url ∧ url.IsNamed := by
  unfold reached
  rw [bind_eq_ok]
  simp only [named_eq_ok]
  constructor
  · rintro ⟨url, found, rfl, named⟩
    exact ⟨found, named⟩
  · rintro ⟨found, named⟩
    exact ⟨url, found, rfl, named⟩

theorem RedirectPolicy.followUp_value (p : RedirectPolicy) (request : Http.Request)
    (response : Http.Response) :
    (p.followUp request response).value =
      (Redirect.reached request.url response.headers).map (Redirect.followUp request) := by
  unfold followUp Redirect.reached
  cases Redirect.target request.url response.headers <;> rfl

end

namespace Call

variable [Codecs] (call : Call)

/-- What a call does about a fault. -/
def onFault (fault : Fault) : Verdict :=
  if fault.category.isTransport then
    if call.client.transportRetry.allows fault.kind call.context.attempt (some call.current)
        fault.mayHaveBeenSent then .again
    else .fail (.client (.failedSend call.current fault call.context.sends))
  else .fail (.fault fault)

/-- What a call does about a redirect to follow. -/
def onRedirect (response : Http.Response) : Verdict :=
  if call.client.config.maxRedirects.atMost (.integer call.context.redirects) then
    .fail (.client (.redirectLimit call.client.config.maxRedirects))
  else .ofTarget (Redirect.reached call.current.url response.headers)

/-- What a call does about a response. -/
def onResponse (response : Http.Response) : Verdict :=
  if call.client.statusRetry.allows response call.context.attempt then .again
  else if Redirect.follows call.current.method response then call.onRedirect response
  else .answer response

/-- What a call does about what a send gave. -/
def verdict : Except Exchange.Error Http.Response → Verdict
  | .error (.fault fault) => call.onFault fault
  | .error (.url error) => .fail (.url error)
  | .error (.name error) => .fail (.name error)
  | .error (.site error) => .fail (.site error)
  | .ok response => call.onResponse response

/-- Everything a call can decide, with what it rests on. -/
inductive Decides : Except Exchange.Error Http.Response → Verdict → Prop
  | retryFault {fault : Fault} :
      fault.category.isTransport = true →
      call.client.transportRetry.allows fault.kind call.context.attempt (some call.current)
        fault.mayHaveBeenSent = true →
      Decides (.error (.fault fault)) .again
  | failedSend {fault : Fault} :
      fault.category.isTransport = true →
      call.client.transportRetry.allows fault.kind call.context.attempt (some call.current)
        fault.mayHaveBeenSent = false →
      Decides (.error (.fault fault))
        (.fail (.client (.failedSend call.current fault call.context.sends)))
  | foreignFault {fault : Fault} :
      fault.category.isTransport = false → Decides (.error (.fault fault)) (.fail (.fault fault))
  | badUrl (error : Url.Error) : Decides (.error (.url error)) (.fail (.url error))
  | badName (error : NameError) : Decides (.error (.name error)) (.fail (.name error))
  | badSite (error : Http.SiteError) : Decides (.error (.site error)) (.fail (.site error))
  | retryStatus {response : Http.Response} :
      call.client.statusRetry.allows response call.context.attempt = true →
      Decides (.ok response) .again
  | redirectLimit {response : Http.Response} :
      call.client.statusRetry.allows response call.context.attempt = false →
      Redirect.follows call.current.method response = true →
      call.client.config.maxRedirects.atMost (.integer call.context.redirects) = true →
      Decides (.ok response) (.fail (.client (.redirectLimit call.client.config.maxRedirects)))
  | lostTarget {response : Http.Response} {error : Redirect.Error} :
      call.client.statusRetry.allows response call.context.attempt = false →
      Redirect.follows call.current.method response = true →
      call.client.config.maxRedirects.atMost (.integer call.context.redirects) = false →
      Redirect.reached call.current.url response.headers = .error error →
      Decides (.ok response) (.fail (.ofRedirect error))
  | followed {response : Http.Response} {url : Url} :
      call.client.statusRetry.allows response call.context.attempt = false →
      Redirect.follows call.current.method response = true →
      call.client.config.maxRedirects.atMost (.integer call.context.redirects) = false →
      Redirect.reached call.current.url response.headers = .ok url →
      Decides (.ok response) (.follow url)
  | answered {response : Http.Response} :
      call.client.statusRetry.allows response call.context.attempt = false →
      Redirect.follows call.current.method response = false →
      Decides (.ok response) (.answer response)

theorem decides_verdict (given : Except Exchange.Error Http.Response) :
    call.Decides given (call.verdict given) := by
  cases given with
  | error error =>
    cases error with
    | url error => exact .badUrl error
    | name error => exact .badName error
    | site error => exact .badSite error
    | fault fault =>
      simp only [verdict, onFault]
      split
      · rename_i transport
        split
        · rename_i allowed
          exact .retryFault transport allowed
        · rename_i refused
          exact .failedSend transport (Bool.eq_false_iff.mpr refused)
      · rename_i foreign
        exact .foreignFault (Bool.eq_false_iff.mpr foreign)
  | ok response =>
    simp only [verdict, onResponse]
    split
    · rename_i allowed
      exact .retryStatus allowed
    · rename_i refused
      have refused := Bool.eq_false_iff.mpr refused
      split
      · rename_i follows
        unfold onRedirect
        split
        · rename_i full
          exact .redirectLimit refused follows full
        · rename_i free
          have free := Bool.eq_false_iff.mpr free
          cases target : Redirect.reached call.current.url response.headers with
          | ok url => exact .followed refused follows free target
          | error error => exact .lostTarget refused follows free target
      · rename_i stays
        exact .answered refused (Bool.eq_false_iff.mpr stays)

/-- What a call does about a response that says that nothing failed. -/
theorem verdict_of_low (call : Call) {response : Http.Response} (low : response.status ≤ 500) :
    call.verdict (.ok response) =
      if Redirect.follows call.current.method response then call.onRedirect response
      else .answer response := by
  have passes : StatusRetry.isFailure response = false := by
    rw [StatusRetry.isFailure, decide_eq_false_iff_not]
    omega
  simp [verdict, onResponse, StatusRetry.allows, passes]

/-- The call once a verdict is carried out. -/
def settle : Verdict → Call
  | .again => { call with context := call.context.nextAttempt }
  | .follow url =>
    { call with
      current := Redirect.followUp call.current url
      context := call.context.countRedirect }
  | .answer _ | .fail _ => call

/-- A step that carries a verdict out without sending anything more; `sent` is the request that was
    sent. -/
structure Carries (step : Step) (verdict : Verdict) (sent : Http.Request) : Prop where
  result : step.result = verdict.result sent
  call : step.call = call.settle verdict
  requests : Event.requests step.events = []

omit [Codecs] in
theorem carries_afterFault (fault : Fault) (sent : Http.Request) :
    call.Carries (call.afterFault fault) (call.onFault fault) sent := by
  unfold afterFault onFault
  simp only [TransportRetry.shouldRetry_value]
  split
  · split
    · exact ⟨rfl, rfl, Event.requests_ofRecords _⟩
    · exact ⟨rfl, rfl, Event.requests_ofRecords _⟩
  · exact ⟨rfl, rfl, rfl⟩

theorem carries_afterRedirect (response : Http.Response) (sent : Http.Request) :
    call.Carries (call.afterRedirect response) (call.onRedirect response) sent := by
  unfold afterRedirect onRedirect
  simp only [RedirectPolicy.followUp_value]
  split
  · exact ⟨rfl, rfl, rfl⟩
  · cases Redirect.reached call.current.url response.headers with
    | error error => exact ⟨rfl, rfl, Event.requests_ofRecords _⟩
    | ok url => exact ⟨rfl, rfl, Event.requests_ofRecords _⟩

omit [Codecs] in
theorem requests_waits (interval : Number) : Event.requests (waits interval) = [] := by
  unfold waits
  split <;> rfl

theorem carries_afterResponse (sent : Http.Request) (response : Http.Response) :
    call.Carries (call.afterResponse sent response) (call.onResponse response) sent := by
  unfold afterResponse onResponse
  simp only [StatusRetry.shouldRetry_value, RedirectPolicy.isRedirected_value]
  split
  · exact ⟨rfl, rfl, by simp [requests_waits]⟩
  · split
    · have carried := call.carries_afterRedirect response sent
      exact ⟨carried.result, carried.call, by simp [carried.requests]⟩
    · exact ⟨rfl, rfl, by simp⟩

theorem carries_receive (sent : Http.Request) (given : Except Exchange.Error Http.Response) :
    call.Carries (call.receive sent given) (call.verdict given) sent := by
  cases given with
  | ok response => exact call.carries_afterResponse sent response
  | error error =>
    cases error with
    | fault fault => exact call.carries_afterFault fault sent
    | url error => exact ⟨rfl, rfl, rfl⟩
    | name error => exact ⟨rfl, rfl, rfl⟩
    | site error => exact ⟨rfl, rfl, rfl⟩

/-- The client of a call whose next request is prepared. -/
def preparedClient : Client :=
  { call.client with session := call.client.preparedSession call.current }

/-- The call when a send has given something and left these cookies. -/
def afterSend (cookies : Http.CookieJar) : Call :=
  { call with client := { call.preparedClient with cookies }, context := call.context.countSend }

/-- A step whose request is prepared sends it and carries out what the outcome means. -/
theorem step_of_sent (exchange : Http.CookieJar → Http.Request → Exchange.Sent)
    {outgoing : Http.Request}
    (prepared : (call.client.prepare call.current).value.2 = .ok outgoing) :
    let sent := exchange call.client.cookies (Exchange.onWire outgoing)
    let after := call.afterSend sent.cookies
    (call.step exchange).result = (after.verdict sent.given).result (Exchange.onWire outgoing) ∧
      (call.step exchange).call = after.settle (after.verdict sent.given) ∧
      Event.requests (call.step exchange).events = [outgoing] := by
  intro sent after
  have carried := after.carries_receive (Exchange.onWire outgoing) sent.given
  simp only [step, prepared, Client.prepare_client]
  refine ⟨carried.result, carried.call, ?_⟩
  rw [Event.requests_append, Event.requests_ofRecords, List.nil_append]
  exact congrArg (outgoing :: ·) carried.requests

/-- A step whose request cannot be prepared sends nothing and ends the call. -/
theorem step_of_refused (exchange : Http.CookieJar → Http.Request → Exchange.Sent)
    {failure : Failure}
    (refused : (call.client.prepare call.current).value.2 = .error failure) :
    (call.step exchange).result = some (.error failure) ∧
      (call.step exchange).call = { call with client := call.preparedClient } ∧
      Event.requests (call.step exchange).events = [] := by
  simp only [step, refused, Client.prepare_client]
  exact ⟨rfl, rfl, Event.requests_ofRecords _⟩

end Call

end Courier
