import Courier.Proofs.Calls
import Courier.Proofs.Course
import Courier.Proofs.Lockstep
import Courier.Proofs.Settled

/-!
# Calls without their retries

A call that returns a response has sent some of its requests again, after failures. Made once more
over the outcomes of its other sends, it sends the other requests only and returns the same
response: the call without retries does nothing while the one with retries sends again, and
otherwise both do the same (`Call.Retraces`). The counters of attempts differ between them, but only
a failure asks for these. The cookies differ as well, as a failed send may have set or cleared some;
so the call comes to the same exactly if cookies make none of its sends fail
(`execute_transparent_iff`).
-/

namespace Courier

/-- Whether what a send gives is a failure of the transport or a status above 500. -/
def Exchange.isFailure : Except Exchange.Error Http.Response → Bool
  | .error (.fault fault) => fault.category.isTransport
  | .error (.url _) | .error (.name _) | .error (.site _) => false
  | .ok response => 500 < response.status

/-- A schedule of those outcomes of another one that have these numbers. -/
def Exchange.Schedule.Keeps (schedule schedule' : Exchange.Schedule) (numbers : List Nat) : Prop :=
  ∀ n m, numbers[n]? = some m → schedule'.outcome n = schedule.outcome m

/-- Whether the request is sent again. -/
def Verdict.isAgain : Verdict → Bool
  | again => true
  | follow _ | answer _ | fail _ => false

/-- The URL that is followed. -/
def Verdict.followed? : Verdict → Option Url
  | follow url => some url
  | again | answer _ | fail _ => none

namespace Call

variable [Codecs] {call call' : Call} {script script' : Exchange.Script}

/-- A call answers with what the send gave. -/
theorem given_of_answer {given : Except Exchange.Error Http.Response} {response : Http.Response}
    (answered : call.verdict given = .answer response) : given = .ok response := by
  have decided := call.decides_verdict given
  rw [answered] at decided
  generalize returned : Verdict.answer response = verdict at decided
  cases decided with
  | answered _ _ => cases returned; rfl
  | _ => cases returned

/-- A redirect is followed after a response whose status says that nothing failed. -/
theorem given_of_follow {given : Except Exchange.Error Http.Response} {url : Url}
    (followed : call.verdict given = .follow url) :
    ∃ response : Http.Response, given = .ok response ∧ response.status ≤ 308 := by
  have decided := call.decides_verdict given
  rw [followed] at decided
  generalize target : Verdict.follow url = verdict at decided
  cases decided with
  | followed _ follows _ _ => exact ⟨_, rfl, Redirect.status_of_follows follows⟩
  | lostTarget _ _ _ _ => cases target
  | _ => cases target

/-- A request is sent again only after a failure. -/
theorem isFailure_of_again {given : Except Exchange.Error Http.Response}
    (again : call.verdict given = .again) :
    Exchange.isFailure given = true := by
  have decided := call.decides_verdict given
  rw [again] at decided
  generalize repeated : Verdict.again = verdict at decided
  cases decided with
  | retryFault transport _ => exact transport
  | retryStatus allowed =>
    rw [StatusRetry.allows, Bool.and_eq_true] at allowed
    exact allowed.1
  | _ => cases repeated

theorem isAgain_of_passes {given : Except Exchange.Error Http.Response}
    (passes : Exchange.isFailure given = false) : (call.verdict given).isAgain = false := by
  cases verdict : call.verdict given with
  | again =>
    rw [isFailure_of_again verdict] at passes
    cases passes
  | follow url => rfl
  | answer response => rfl
  | fail failure => rfl

omit [Codecs] in
theorem isFailure_of_low {response : Http.Response} (low : response.status ≤ 500) :
    Exchange.isFailure (.ok response) = false := by
  rw [Exchange.isFailure, decide_eq_false_iff_not]
  omega

theorem waits_afterRedirect (call : Call) (response : Http.Response) :
    Event.waits (call.afterRedirect response).events = [] := by
  unfold afterRedirect
  simp only
  split
  · rfl
  · cases (call.client.redirects.followUp call.current response).value <;>
      exact Event.waits_ofRecords _

/-- A response whose status says that nothing failed makes no call wait. -/
theorem waits_receive_of_low (call : Call) (wire : Http.Request) {response : Http.Response}
    (low : response.status ≤ 500) : Event.waits (call.receive wire (.ok response)).events = [] := by
  have passes : StatusRetry.isFailure response = false := by
    rw [StatusRetry.isFailure, decide_eq_false_iff_not]
    omega
  simp only [receive, afterResponse, StatusRetry.shouldRetry, passes, Bool.false_eq_true, if_false]
  split
  · simp [waits_afterRedirect]
  · simp

/-- The sends of a run whose requests are not sent again. -/
def unretried (script : Exchange.Script) (fuel : Nat) (call : Call) : List Sending :=
  (sendings script fuel call).filter fun s => !(s.verdict script).isAgain

/-- A call that has come to the same request as another one, after as many redirects, on behalf of
    an akin client. -/
structure Retraces (call call' : Call) : Prop where
  akin : call.client.Akin call'.client
  current : call'.current = call.current
  redirects : call'.context.redirects = call.context.redirects

namespace Retraces

/-- Sending a request again is behind a call that has not sent it yet. -/
theorem again (retraces : call.Retraces call') {outgoing : Http.Request}
    (prepared : (call.client.prepare call.current).value.2 = .ok outgoing)
    (repeated : (Sending.verdict script ⟨call, outgoing⟩) = .again) :
    (call.advance script).call.Retraces call' := by
  have settled : (call.advance script).call.client.session.Settled := by
    rw [call.advance_session]
    exact retraces.akin.settled.prepared _
  have after := (advance_of_sent script prepared).2
  rw [repeated] at after
  refine ⟨retraces.akin.mono (call.advance_continues script)
    (.refl _) settled retraces.akin.settled', ?_, ?_⟩
  · rw [after]
    exact retraces.current
  · rw [after]
    exact retraces.redirects

/-- What both calls do about a response whose status says that nothing failed. -/
theorem verdict (retraces : call.Retraces call') {response : Http.Response}
    (low : response.status ≤ 500) :
    call'.verdict (.ok response) = call.verdict (.ok response) := by
  have config := retraces.akin.continues.config
  rw [call.verdict_of_low low, call'.verdict_of_low low, retraces.current]
  simp only [onRedirect, config, retraces.current, retraces.redirects]

theorem afterSend (retraces : call.Retraces call') (cookies cookies' : Http.CookieJar) :
    (call.afterSend cookies).Retraces (call'.afterSend cookies') where
  akin := retraces.akin.mono (call.afterSend_continues cookies) (call'.afterSend_continues cookies')
    (retraces.akin.settled.prepared call.current) (retraces.akin.settled'.prepared call'.current)
  current := retraces.current
  redirects := retraces.redirects

omit [Codecs] in
theorem settle (retraces : call.Retraces call') (verdict : Verdict) :
    (call.settle verdict).Retraces (call'.settle verdict) := by
  cases verdict with
  | follow url =>
    exact ⟨retraces.akin, congrArg (Redirect.followUp · url) retraces.current,
      congrArg (· + 1) retraces.redirects⟩
  | again => exact ⟨retraces.akin, retraces.current, retraces.redirects⟩
  | answer response => exact retraces
  | fail failure => exact retraces

/-- Both calls do the same when their sends give the same response that nothing failed. -/
theorem together (retraces : call.Retraces call') {outgoing : Http.Request}
    (prepared : (call.client.prepare call.current).value.2 = .ok outgoing)
    (prepared' : (call'.client.prepare call'.current).value.2 = .ok outgoing)
    {response : Http.Response} (low : response.status ≤ 500)
    (given : (Sending.sent script ⟨call, outgoing⟩).given = .ok response)
    (given' : (Sending.sent script' ⟨call', outgoing⟩).given = .ok response) :
    Sending.verdict script' ⟨call', outgoing⟩ = Sending.verdict script ⟨call, outgoing⟩ ∧
      (call'.advance script').result = (call.advance script).result ∧
      Event.waits (call'.advance script').events = [] := by
  have same : Sending.verdict script' ⟨call', outgoing⟩ =
      Sending.verdict script ⟨call, outgoing⟩ := by
    rw [Sending.verdict, Sending.verdict, given, given']
    exact (retraces.afterSend _ _).verdict low
  refine ⟨same, ?_, ?_⟩
  · rw [(advance_of_sent script prepared).1, (advance_of_sent script' prepared').1, same]
    rfl
  · have quiet := waits_receive_of_low (Sending.after script' ⟨call', outgoing⟩)
      (Sending.wire ⟨call', outgoing⟩) low
    rw [events_advance, Event.waits_append, Event.waits_ofRecords, List.nil_append,
      deeds_of_sent script' prepared', given']
    exact quiet

end Retraces

section Sendings

variable (script) (fuel : Nat) {outgoing : Http.Request}
  (prepared : (call.client.prepare call.current).value.2 = .ok outgoing)

include prepared

theorem unretried_of_again (repeated : Sending.verdict script ⟨call, outgoing⟩ = .again) :
    unretried script (fuel + 1) call = unretried script fuel (call.advance script).call := by
  have goesOn := (advance_of_sent script prepared).1
  simp only [repeated, Verdict.result] at goesOn
  rw [unretried, sendings_succ_of_sent script fuel prepared, goesOn,
    List.filter_cons_of_neg (by simp [repeated, Verdict.isAgain])]
  rfl

theorem unretried_of_kept (kept : (Sending.verdict script ⟨call, outgoing⟩).isAgain = false) :
    unretried script (fuel + 1) call =
      ⟨call, outgoing⟩ :: match (call.advance script).result with
        | some _ => []
        | none => unretried script fuel (call.advance script).call := by
  rw [unretried, sendings_succ_of_sent script fuel prepared,
    List.filter_cons_of_pos (by simp [kept])]
  cases (call.advance script).result <;> rfl

end Sendings

/-- A run and one over what its sends without a retry gave: the second one makes these sends in the
    same way, ends alike and does not wait, and what was sent again in the first one are the
    failures. -/
structure Retraced (script script' : Exchange.Script) (fuel fuel' : Nat)
    (call call' : Call) : Prop where
  result : (call'.run script' fuel').result = (call.run script fuel).result
  decisions : ((sendings script' fuel' call').map fun s => (s.outgoing, s.verdict script')) =
    (unretried script fuel call).map fun s => (s.outgoing, s.verdict script)
  waits : Event.waits (call'.run script' fuel').events = []
  failures : ∀ s ∈ sendings script fuel call,
    (s.verdict script).isAgain = Exchange.isFailure (s.sent script).given

namespace Retraced

variable {fuel fuel' : Nat} {outgoing : Http.Request}
  (prepared : (call.client.prepare call.current).value.2 = .ok outgoing)

include prepared

theorem again (repeated : Sending.verdict script ⟨call, outgoing⟩ = .again)
    (retraced : Retraced script script' fuel fuel' (call.advance script).call call') :
    Retraced script script' (fuel + 1) fuel' call call' := by
  have goesOn := (advance_of_sent script prepared).1
  simp only [repeated, Verdict.result] at goesOn
  refine ⟨?_, ?_, retraced.waits, ?_⟩
  · rw [retraced.result, run_succ]
    simp only [goesOn]
  · rw [retraced.decisions, unretried_of_again script fuel prepared repeated]
  · rw [sendings_succ_of_sent script fuel prepared]
    simp only [goesOn, List.forall_mem_cons]
    refine ⟨?_, retraced.failures⟩
    have failed : Exchange.isFailure (Sending.sent script ⟨call, outgoing⟩).given = true :=
      isFailure_of_again repeated
    rw [repeated, failed]
    rfl

/-- After a send that gives both calls the same response that nothing failed, both end or both go
    on. -/
theorem kept (retraces : call.Retraces call')
    (prepared' : (call'.client.prepare call'.current).value.2 = .ok outgoing)
    {response : Http.Response} (low : response.status ≤ 500)
    (given : (Sending.sent script ⟨call, outgoing⟩).given = .ok response)
    (given' : (Sending.sent script' ⟨call', outgoing⟩).given = .ok response)
    (rest : (call.advance script).result = none →
      Retraced script script' fuel fuel' (call.advance script).call (call'.advance script').call) :
    Retraced script script' (fuel + 1) (fuel' + 1) call call' := by
  obtain ⟨same, ends, quiet⟩ := retraces.together prepared prepared' low given given'
  have passes : Exchange.isFailure (Sending.sent script ⟨call, outgoing⟩).given = false := by
    rw [given]
    exact isFailure_of_low low
  have once : (Sending.verdict script ⟨call, outgoing⟩).isAgain = false := isAgain_of_passes passes
  cases ended : (call.advance script).result with
  | some result =>
    rw [ended] at ends
    refine ⟨?_, ?_, ?_, ?_⟩
    · simp only [run_succ, ended, ends, finish]
    · rw [sendings_succ_of_sent script' fuel' prepared',
        unretried_of_kept script fuel prepared once]
      simp [ended, ends, same]
    · simp only [run_succ, ends, finish, quiet]
    · rw [sendings_succ_of_sent script fuel prepared]
      simp [ended, once, passes]
  | none =>
    rw [ended] at ends
    have later := rest ended
    refine ⟨?_, ?_, ?_, ?_⟩
    · simp only [run_succ, ended, ends, later.result]
    · rw [sendings_succ_of_sent script' fuel' prepared',
        unretried_of_kept script fuel prepared once]
      simp [ended, ends, same, later.decisions]
    · simp [run_succ, ends, quiet, later.waits]
    · rw [sendings_succ_of_sent script fuel prepared]
      simpa [ended, once, passes] using later.failures

end Retraced

/-- The first request of a run that returns an answer can be prepared. -/
theorem prepared_of_returned {fuel : Nat} {answer : Answer}
    (returned : (call.run script (fuel + 1)).result = .ok answer) :
    ∃ outgoing, (call.client.prepare call.current).value.2 = .ok outgoing := by
  rw [run_succ] at returned
  cases prepared : (call.client.prepare call.current).value.2 with
  | ok outgoing => exact ⟨outgoing, rfl⟩
  | error failure =>
    rw [(advance_of_refused prepared).1] at returned
    cases returned

/-- A run that returns an answer whose status says that nothing failed is retraced by one whose
    sends give the responses to its sends without a retry. -/
theorem run_retraced {answer : Answer} (low : answer.response.status ≤ 500) {fuel fuel' : Nat}
    (enough : fuel ≤ fuel') (retraces : call.Retraces call')
    (returned : (call.run script fuel).result = .ok answer)
    (gives : ∀ (n : Nat) (s s' : Sending) (response : Http.Response),
      (unretried script fuel call)[n]? = some s → (sendings script' fuel' call')[n]? = some s' →
        s'.outgoing = s.outgoing → (s.sent script).given = .ok response →
          (s'.sent script').given = .ok response) :
    Retraced script script' fuel fuel' call call' := by
  induction fuel generalizing call call' fuel' with
  | zero => cases returned
  | succ fuel ih =>
    obtain ⟨outgoing, prepared⟩ := prepared_of_returned returned
    rw [run_succ] at returned
    have prepared' : (call'.client.prepare call'.current).value.2 = .ok outgoing := by
      rw [retraces.current, retraces.akin.prepare, prepared]
    obtain ⟨result, after⟩ := advance_of_sent script prepared
    -- a send that is not repeated is made by the other call as well
    have together : ∀ response : Http.Response, response.status ≤ 500 →
        (Sending.sent script ⟨call, outgoing⟩).given = .ok response →
        Retraced script script' (fuel + 1) fuel' call call' := by
      intro response status given
      have once : (Sending.verdict script ⟨call, outgoing⟩).isAgain = false := by
        apply isAgain_of_passes
        rw [given]
        exact isFailure_of_low status
      obtain ⟨more, rfl⟩ := Nat.exists_eq_add_of_le' (Nat.one_le_of_lt enough)
      rw [unretried_of_kept script fuel prepared once,
        sendings_succ_of_sent script' more prepared'] at gives
      have given' := gives 0 _ _ response rfl rfl rfl given
      apply Retraced.kept prepared retraces prepared' status given given'
      intro going
      obtain ⟨same, ends, -⟩ := retraces.together prepared prepared' status given given'
      have next : (call.advance script).call.Retraces (call'.advance script').call := by
        rw [after, (advance_of_sent script' prepared').2, same]
        exact (retraces.afterSend _ _).settle _
      rw [going] at ends returned gives
      rw [ends] at gives
      apply ih (Nat.le_of_succ_le_succ enough) next returned
      intro n
      exact gives (n + 1)
    cases verdict : Sending.verdict script ⟨call, outgoing⟩ with
    | again =>
      simp only [verdict, Verdict.result] at result
      rw [unretried_of_again script fuel prepared verdict] at gives
      simp only [result] at returned
      exact .again prepared verdict (ih (Nat.le_of_succ_le enough) (retraces.again prepared verdict)
        returned gives)
    | follow url =>
      obtain ⟨response, given, status⟩ := given_of_follow verdict
      exact together response (by omega) given
    | answer response =>
      simp only [verdict, Verdict.result] at result
      simp only [result, finish, Except.ok.injEq] at returned
      refine together response ?_ (given_of_answer verdict)
      rw [← returned] at low
      exact low
    | fail failure =>
      simp only [verdict, Verdict.result] at result
      simp only [result, finish] at returned
      cases returned

end Call

namespace Client

section

variable [Codecs] (c : Client) (request : Http.Request) (script : Exchange.Script)

/-- The sends of a call whose requests are not sent again. -/
def unretried : List Call.Sending :=
  (c.sendings request script).filter fun s => !(s.verdict script).isAgain

/-- The numbers of these sends. -/
def unretriedNumbers : List Nat :=
  (c.unretried request script).map fun s => s.call.context.sends.toNat

/-- The redirects that a call follows. -/
def followed : List Url :=
  (c.sendings request script).filterMap fun s => (s.verdict script).followed?

/-- What is to hold of a call and of another one over the outcomes of its sends without a retry. -/
structure Transparent (script' : Exchange.Script) : Prop where
  /-- What was sent again is what failed. -/
  retried : ∀ s ∈ c.sendings request script,
    (s.verdict script).isAgain = Exchange.isFailure (s.sent script).given
  result : (c.execute request script').result = (c.execute request script).result
  requests : Event.requests (c.execute request script').events =
    (c.unretried request script).map Call.Sending.outgoing
  followed : c.followed request script' = c.followed request script
  waits : Event.waits (c.execute request script').events = []

theorem followed_eq_unretried :
    c.followed request script = (c.unretried request script).filterMap fun s =>
      (s.verdict script).followed? := by
  unfold followed unretried
  rw [List.filterMap_filter]
  congr 1
  funext s
  cases s.verdict script <;> rfl

/-- An error of cookies ends its call. -/
theorem execute_of_siteError {n : Nat} {s : Call.Sending}
    (here : (c.sendings request script)[n]? = some s) {error : Http.SiteError}
    (spoilt : s.siteError? script = some error) :
    (c.execute request script).result = .error (.site error) := by
  have given := Exchange.siteError?_eq_some.mp spoilt
  have verdict : s.verdict script = .fail (.site error) := by
    rw [Call.Sending.verdict, given]
    rfl
  exact (execute_of_ended here (by rw [verdict]; rfl)).1

variable {c} in
theorem unretried_of_open (isOpen : c.closed = false) :
    c.unretried request script = Call.unretried script c.maxSends (Call.start c request) := by
  rw [unretried, sendings_of_open isOpen]
  rfl

variable {c request script} in
theorem Transparent.of_retraced {script' : Exchange.Script} (isOpen : c.closed = false)
    (retraced : Call.Retraced script script' c.maxSends c.maxSends (Call.start c request)
      (Call.start c request)) :
    c.Transparent request script script' := by
  refine ⟨?_, ?_, ?_, ?_, ?_⟩
  · rw [sendings_of_open isOpen]
    exact retraced.failures
  · rw [execute_of_open isOpen, execute_of_open isOpen, retraced.result]
  · have requests := congrArg (List.map Prod.fst) retraced.decisions
    simp only [List.map_map] at requests
    rw [requests_execute, sendings_of_open isOpen, unretried_of_open _ _ isOpen]
    exact requests
  · have urls := congrArg (List.filterMap fun decision => decision.2.followed?) retraced.decisions
    simp only [List.filterMap_map] at urls
    rw [followed_eq_unretried c request script, unretried_of_open _ _ isOpen, Client.followed,
      sendings_of_open isOpen]
    exact urls
  · rw [execute_of_open isOpen]
    exact retraced.waits

variable {c request} in
/-- A send over kept outcomes gives the response that the one before gave, unless cookies make it
    fail. -/
theorem given_of_keeps {schedule schedule' : Exchange.Schedule}
    (keeps : schedule.Keeps schedule' (c.unretriedNumbers request schedule.script)) {n : Nat}
    {s s' : Call.Sending} (here : (c.unretried request schedule.script)[n]? = some s)
    (here' : (c.sendings request schedule'.script)[n]? = some s') (same : s'.outgoing = s.outgoing)
    (clean : s'.siteError? schedule'.script = none) {response : Http.Response}
    (given : (s.sent schedule.script).given = .ok response) :
    (s'.sent schedule'.script).given = .ok response := by
  have outcome : schedule'.outcome n = schedule.outcome s.call.context.sends.toNat := by
    apply keeps
    rw [unretriedNumbers, List.getElem?_map, here]
    rfl
  simp only [Call.Sending.siteError?, Call.Sending.sent, Call.Sending.wire,
    Exchange.Schedule.script, sendings_number here', outcome, same] at clean given ⊢
  rw [← given]
  apply Exchange.complete_congr
  rw [clean, given]
  rfl

/-- Retries are transparent but for cookies: a call of a new client that returns a response whose
    status says that nothing failed comes to the same response without them exactly if cookies make
    no send fail then. -/
theorem execute_transparent_iff {config : Config} {logger : Option String} {created : Logged Client}
    (built : create config logger = .ok created) {request : Http.Request}
    {schedule schedule' : Exchange.Schedule} {answer : Answer}
    (returned : (created.value.execute request schedule.script).result = .ok answer)
    (low : answer.response.status ≤ 500)
    (keeps : schedule.Keeps schedule' (created.value.unretriedNumbers request schedule.script)) :
    created.value.Transparent request schedule.script schedule'.script ↔
      ∀ s ∈ created.value.sendings request schedule'.script,
        s.siteError? schedule'.script = none := by
  have made := create_madeFrom built
  constructor
  · intro transparent s member
    obtain ⟨n, here⟩ := List.getElem?_of_mem member
    cases spoilt : s.siteError? schedule'.script with
    | none => rfl
    | some error =>
      have failed := execute_of_siteError _ _ _ here spoilt
      rw [transparent.result, returned] at failed
      cases failed
  · intro clean
    rw [execute_of_open made.isOpen] at returned
    apply Transparent.of_retraced made.isOpen
    apply Call.run_retraced low (Nat.le_refl _) ⟨made.akin, rfl, rfl⟩ returned
    intro n s s' response here here' same given
    rw [← unretried_of_open _ _ made.isOpen] at here
    rw [← sendings_of_open made.isOpen] at here'
    exact given_of_keeps keeps here here' same (clean s' (List.mem_of_getElem? here')) given

end

attribute [local instance] Codecs.plain

/-- A send that is late, one that finds the server not available, a redirect to another host, a
    broken connection there, and an answer. -/
def troubled : Exchange.Schedule where
  clock _ := 0
  outcome
    | 0 => .fault (.single (.timeout (some .read)) "timed out")
    | 1 => .status 503
    | 2 => .redirect "http://i/b"
    | 3 => .fault (.single (.network (some .connect)) "refused")
    | _ => .status 200

/-- The same without what failed. -/
def untroubled : Exchange.Schedule where
  clock _ := 0
  outcome
    | 0 => .redirect "http://i/b"
    | _ => .status 200

theorem execute_transparent_troubled :
    ∃ created answer, create .default none = .ok created ∧
      (created.value.execute (.toHost "GET" .none) troubled.script).result = .ok answer ∧
      answer.response.status ≤ 500 ∧
      troubled.Keeps untroubled (created.value.unretriedNumbers
        (.toHost "GET" .none) troubled.script) ∧
      (created.value.Transparent (.toHost "GET" .none) troubled.script untroubled.script ↔
        ∀ s ∈ created.value.sendings (.toHost "GET" .none) untroubled.script,
          s.siteError? untroubled.script = none) := by
  obtain ⟨created, built, answered, numbers⟩ : ∃ created, create .default none = .ok created ∧
      (created.value.execute (.toHost "GET" .none) troubled.script).result.toOption.any
          (·.response.status ≤ 500) ∧
        created.value.unretriedNumbers (.toHost "GET" .none) troubled.script = [2, 4] := by
    refine ⟨_, rfl, ?_, ?_⟩ <;> decide +kernel
  obtain ⟨answer, returned, low⟩ : ∃ answer,
      (created.value.execute (.toHost "GET" .none) troubled.script).result = .ok answer ∧
        answer.response.status ≤ 500 := by
    cases ended : (created.value.execute (.toHost "GET" .none) troubled.script).result with
    | error failure => simp [ended, Except.toOption] at answered
    | ok answer => exact ⟨answer, rfl, by simpa [ended, Except.toOption] using answered⟩
  have keeps : troubled.Keeps untroubled
      (created.value.unretriedNumbers (.toHost "GET" .none) troubled.script) := by
    rw [numbers]
    intro n m here
    rcases n with - | - | n
    · cases here; rfl
    · cases here; rfl
    · cases here
  exact ⟨created, answer, built, returned, low, keeps,
    execute_transparent_iff built returned low keeps⟩

/-- A redirect that sets a cookie with a letter beyond ASCII, for another path; a failure that
    clears it; a redirect to that path, and an answer. -/
def clearing : Exchange.Schedule where
  clock _ := 0
  outcome
    | 0 => .answer (.create 302 ⟨[⟨Http.FieldName.location, Utf8.ofString "/b"⟩,
        ⟨Http.FieldName.setCookie, Utf8.ofString "k=é; Path=/c"⟩]⟩ [] none none)
    | 1 =>
      .answer (.create 503 ⟨[⟨Http.FieldName.setCookie, Utf8.ofString "k=; Path=/c; Max-Age=0"⟩]⟩
        [] none none)
    | 2 => .redirect "/c"
    | _ => .status 200

/-- The same without the failure. -/
def unclearing : Exchange.Schedule where
  clock _ := 0
  outcome
    | 0 => clearing.outcome 0
    | 1 => clearing.outcome 2
    | _ => .status 200

/-- Where the failure has cleared a cookie that does not fit into a field, the call without it
    raises an error in the place of the answer. -/
theorem clearing_not_transparent :
    ∃ created, create .default none = .ok created ∧
      let request : Http.Request := .toHost "GET" .none
      (created.value.execute request clearing.script).result.map
        (fun answer => answer.response.status) =
          .ok 200 ∧
        clearing.Keeps unclearing (created.value.unretriedNumbers request clearing.script) ∧
        (created.value.execute request unclearing.script).result.map
          (fun answer => answer.response.status) =
          .error (.site (.unencodable ⟨.ascii, ['k', '=', 'é']⟩)) ∧
        ¬ created.value.Transparent request clearing.script unclearing.script := by
  obtain ⟨created, built, answered, numbers, failed⟩ : ∃ created,
    create .default none = .ok created ∧
      (created.value.execute (.toHost "GET" .none) clearing.script).result.map
          (fun answer => answer.response.status) = .ok 200 ∧
        created.value.unretriedNumbers (.toHost "GET" .none) clearing.script = [0, 2, 3] ∧
        (created.value.execute (.toHost "GET" .none) unclearing.script).result.map
            (fun answer => answer.response.status) =
          .error (.site (.unencodable ⟨.ascii, ['k', '=', 'é']⟩)) := by
    refine ⟨_, rfl, ?_, ?_, ?_⟩ <;> decide +kernel
  refine ⟨created, built, answered, ?_, failed, ?_⟩
  · rw [numbers]
    intro n m here
    match n with
    | 0 => cases here; rfl
    | 1 => cases here; rfl
    | 2 => cases here; rfl
    | n + 3 => cases here
  · intro transparent
    rw [transparent.result, answered] at failed
    cases failed

end Client

end Courier
