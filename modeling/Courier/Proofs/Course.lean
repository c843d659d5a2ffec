import Courier.Proofs.Budget
import Courier.Proofs.Settled
import Courier.Proofs.Turns
import Mathlib.Data.Nat.Count
import Mathlib.Order.Bounds.Defs

/-!
# Where a call stops

What the sends of a call give decides alone where the call stops. A course is a request with an
outcome for each send; the request at every send and the numbers of failures and of redirects before
it are functions of the course, and so is the first send that stops a call with given budgets. Every
send before it is a failure or a redirect and uses up one of the two budgets, so it comes no later
than both together (`exists_stop`). The call arrives there with the counters of the course
(`Course.At`), and ends with what the outcome there means, exactly if every request until then can
be sent (`Client.execute_stops_iff`).
-/

namespace Courier

namespace Outcome

/-- What a send gives whose outcome is taken as it is. -/
def given : Outcome → Except Exchange.Error Http.Response
  | answer response => .ok response
  | fault raised => .error (.fault raised)

/-- Whether an outcome is a fault or says that the server is not available. -/
def isFailure : Outcome → Bool
  | answer response => 500 < response.status
  | fault _ => true

/-- Whether an outcome is a failure of the secure channel. -/
def isSecureChannelFailure : Outcome → Bool
  | answer _ => false
  | fault raised => raised.kind == .secureChannelFailure

/-- Whether an outcome is a redirect that is followed for the method of its request. -/
def isFollowed (method : String) : Outcome → Bool
  | answer response => Redirect.follows method response
  | fault _ => false

/-- The request after an outcome: the one that follows a redirect, or the same one. -/
def next [Codecs] (request : Http.Request) : Outcome → Http.Request
  | answer response =>
    if Redirect.follows request.method response then
      match Redirect.target request.url response.headers with
      | .ok url => Redirect.followUp request url
      | .error _ => request
    else request
  | fault _ => request

end Outcome

/-- A request, and what each send gives. -/
structure Course where
  request : Http.Request
  outcome : Nat → Outcome

namespace Course

section

variable [Codecs] (course : Course)

/-- The request at a send. -/
def requestAt : Nat → Http.Request
  | 0 => course.request.read
  | n + 1 => (course.outcome n).next (requestAt n)

/-- Whether a send is a failure. -/
def failsAt (n : Nat) : Bool := (course.outcome n).isFailure

/-- Whether a send gives a redirect that is followed. -/
def followsAt (n : Nat) : Bool := (course.outcome n).isFollowed (course.requestAt n).method

/-- The number of failures before a send. -/
def failures (n : Nat) : Nat := Nat.count (course.failsAt ·) n

/-- The number of redirects before a send. -/
def redirects (n : Nat) : Nat := Nat.count (course.followsAt ·) n

omit [Codecs] in
theorem failures_succ (n : Nat) :
    course.failures (n + 1) = course.failures n + if course.failsAt n then 1 else 0 :=
  Nat.count_succ _ n

theorem redirects_succ (n : Nat) :
    course.redirects (n + 1) = course.redirects n + if course.followsAt n then 1 else 0 :=
  Nat.count_succ _ n

/-- Whether a send stops a call that may be retried and redirected so often. -/
inductive StopsAt (retryLimit redirectLimit n : Nat) : Prop
  | answered : course.failsAt n = false → course.followsAt n = false →
      StopsAt retryLimit redirectLimit n
  | failed : course.failsAt n = true →
      (course.failures n = retryLimit ∨ (course.outcome n).isSecureChannelFailure = true) →
      StopsAt retryLimit redirectLimit n
  | redirected : course.followsAt n = true → course.redirects n = redirectLimit →
      StopsAt retryLimit redirectLimit n

/-- What a call ends with that stops at a send. -/
def ending (limit : Number) (n : Nat) : Except Failure Http.Response :=
  match course.outcome n with
  | .fault fault => .error (.client (.failedSend (course.requestAt n) fault (n + 1)))
  | .answer response =>
    if course.followsAt n then .error (.client (.redirectLimit limit)) else .ok response

/-- The statuses of redirects are no failures. -/
theorem not_failsAt_of_followsAt {n : Nat} (follows : course.followsAt n = true) :
    course.failsAt n = false := by
  unfold followsAt Outcome.isFollowed at follows
  unfold failsAt Outcome.isFailure
  cases given : course.outcome n with
  | fault fault => simp [given] at follows
  | answer response =>
    simp only [given] at follows
    have status := Redirect.status_of_follows follows
    rw [decide_eq_false_iff_not]
    omega

variable {retryLimit redirectLimit : Nat}

/-- Every send before a call stops is a failure within the retries or a redirect within the
    redirects. -/
theorem counts_of_going {n : Nat} (going : ∀ k < n, ¬ course.StopsAt retryLimit redirectLimit k) :
    course.failures n + course.redirects n = n ∧ course.failures n ≤ retryLimit ∧
      course.redirects n ≤ redirectLimit := by
  induction n with
  | zero => simp [failures, redirects]
  | succ n ih =>
    obtain ⟨total, failed, redirected⟩ := ih fun k before => going k (by omega)
    have here := going n (by omega)
    rw [failures_succ, redirects_succ]
    -- a send that stops nothing is a failure or a redirect, never both, so exactly one count goes
    -- up
    cases follows : course.followsAt n with
    | true =>
      have left : course.redirects n ≠ redirectLimit := fun used => here (.redirected follows used)
      simp only [course.not_failsAt_of_followsAt follows, Bool.false_eq_true, if_false, if_true]
      omega
    | false =>
      cases fails : course.failsAt n with
      | false => exact absurd (.answered fails follows) here
      | true =>
        have left : course.failures n ≠ retryLimit := fun used => here (.failed fails (.inl used))
        simp only [Bool.false_eq_true, if_false, if_true]
        omega

variable (retryLimit redirectLimit) in
/-- A call stops, and no later than both budgets together allow. -/
theorem exists_stop :
    ∃ n ≤ retryLimit + redirectLimit, course.StopsAt retryLimit redirectLimit n := by
  by_contra none
  have going : ∀ k < retryLimit + redirectLimit + 1, ¬ course.StopsAt retryLimit redirectLimit k :=
    fun k before stops => none ⟨k, by omega, stops⟩
  -- one send more than both budgets would be counted in one of them
  obtain ⟨total, failed, redirected⟩ := course.counts_of_going going
  omega

/-! ## A call along its course -/

/-- A client with integer budgets and the credentials of a store that has some for every target. -/
structure Equipped (store : CredentialStore) (retryLimit redirectLimit : Nat)
    (c : Client) : Prop where
  transportRetries : c.transportRetry.maxRetries = .integer retryLimit
  resendsSent : c.transportRetry.resendsSent = true
  statusRetries : c.statusRetry.maxRetries = .integer retryLimit
  maxRedirects : c.config.maxRedirects = .integer redirectLimit
  covers : store.Covers
  store : c.session.store = store
  settled : c.session.Settled

omit [Codecs] in
theorem Equipped.of_continues {store : CredentialStore} {c c' : Client}
    (equipped : Equipped store retryLimit redirectLimit c) (continues : c.Continues c')
    (settled : c'.session.Settled) : Equipped store retryLimit redirectLimit c' where
  transportRetries := by rw [continues.transportRetry, equipped.transportRetries]
  resendsSent := by rw [continues.transportRetry, equipped.resendsSent]
  statusRetries := by rw [continues.statusRetry, equipped.statusRetries]
  maxRedirects := by rw [continues.config, equipped.maxRedirects]
  covers := equipped.covers
  store := by rw [continues.store, equipped.store]
  settled := settled

/-- A call that has come to a send of its course. -/
structure At (store : CredentialStore) (retryLimit redirectLimit n : Nat) (call : Call) : Prop where
  equipped : Equipped store retryLimit redirectLimit call.client
  attempt : call.context.attempt = course.failures n + 1
  followed : call.context.redirects = course.redirects n
  current : call.current = course.requestAt n
  going : ∀ k < n, ¬ course.StopsAt retryLimit redirectLimit k

/-- Whether the request at a send can be sent with the credentials of a store. -/
def SendableAt (store : CredentialStore) (n : Nat) : Prop :=
  ∀ credentials, store.find? (course.requestAt n).url.scope = some credentials →
    (course.requestAt n).IsSendable credentials

/-- A course in which every fault is one of the transport and every redirect to follow has a
    target. -/
structure Orderly : Prop where
  transport : ∀ n fault, course.outcome n = .fault fault → fault.category.isTransport = true
  resolves : ∀ n response, course.outcome n = .answer response → course.followsAt n = true →
    ∃ url, Redirect.target (course.requestAt n).url response.headers = .ok url

namespace At

variable {course} {store : CredentialStore} {n : Nat} {call : Call}

/-- A call prepares the request of its course exactly if it can be sent. -/
theorem prepare_isOk_iff (arrived : course.At store retryLimit redirectLimit n call)
    (buffered : call.current.buffered = true) :
    (∃ outgoing, (call.client.prepare call.current).value.2 = .ok outgoing) ↔
      course.SendableAt store n := by
  obtain ⟨credentials, found⟩ :=
    Option.isSome_iff_exists.mp (arrived.equipped.covers call.current.url.scope)
  have known : call.client.session.credentials? call.current.url.scope = some credentials := by
    rw [arrived.equipped.settled.credentials?, arrived.equipped.store, found]
  rw [Client.prepare_isOk_iff _ buffered known, SendableAt, ← arrived.current]
  constructor
  · intro sendable credentials' found'
    rw [found, Option.some.injEq] at found'
    exact found' ▸ sendable
  · exact fun sendable => sendable credentials found

theorem afterSend (arrived : course.At store retryLimit redirectLimit n call)
    (cookies : Http.CookieJar) :
    course.At store retryLimit redirectLimit n (call.afterSend cookies) :=
  { arrived with
    equipped := arrived.equipped.of_continues (call.afterSend_continues cookies)
      (arrived.equipped.settled.prepared call.current) }

theorem left (arrived : course.At store retryLimit redirectLimit n call) :
    (!(Number.integer retryLimit).less (.integer call.context.attempt)) =
      decide (course.failures n < retryLimit) := by
  rw [Number.less_integer, arrived.attempt, ← decide_not, decide_eq_decide]
  omega

/-- What a call does about a fault, in terms of its course. -/
theorem verdict_fault (arrived : course.At store retryLimit redirectLimit n call) {fault : Fault}
    (transport : fault.category.isTransport = true) :
    call.verdict (.error (.fault fault)) =
      if course.failures n < retryLimit ∧ fault.kind ≠ .secureChannelFailure then .again
      else .fail (.client (.failedSend (course.requestAt n) fault call.context.sends)) := by
  have allows : call.client.transportRetry.allows fault.kind call.context.attempt
    (some call.current)
      fault.mayHaveBeenSent = true ↔
        course.failures n < retryLimit ∧ fault.kind ≠ .secureChannelFailure := by
    simp only [TransportRetry.allows, TransportRetry.isSafe, arrived.equipped.transportRetries,
      arrived.equipped.resendsSent, arrived.left, Bool.or_true, Bool.and_true, Bool.and_eq_true,
      decide_eq_true_eq]
    cases fault.kind <;> simp [Fault.Kind.nonRetriable]
  simp only [Call.verdict, Call.onFault, transport, if_true, allows]
  rw [arrived.current]

/-- What a call does about a response, in terms of its course. -/
theorem verdict_answer (arrived : course.At store retryLimit redirectLimit n call)
    (response : Http.Response) :
    call.verdict (.ok response) =
      if 500 < response.status ∧ course.failures n < retryLimit then .again
      else if Redirect.follows (course.requestAt n).method response then
        if redirectLimit ≤ course.redirects n then
          .fail (.client (.redirectLimit (.integer redirectLimit)))
        else .ofTarget (Redirect.reached (course.requestAt n).url response.headers)
      else .answer response := by
  have allows : call.client.statusRetry.allows response call.context.attempt = true ↔
      500 < response.status ∧ course.failures n < retryLimit := by
    simp only [StatusRetry.allows, StatusRetry.isFailure, arrived.equipped.statusRetries,
      arrived.left, Bool.and_eq_true, decide_eq_true_eq]
  have full : (Number.integer redirectLimit).atMost (.integer call.context.redirects) = true ↔
      redirectLimit ≤ course.redirects n := by
    rw [Number.atMost_integer, arrived.followed, decide_eq_true_eq]
    omega
  simp only [Call.verdict, Call.onResponse, Call.onRedirect, allows, arrived.current,
    arrived.equipped.maxRedirects, full]

/-- A call that comes to the send that stops its course ends with what the outcome there means. -/
theorem ends (arrived : course.At store retryLimit redirectLimit n call) (orderly : course.Orderly)
    (counted : call.context.sends = n + 1) (stops : course.StopsAt retryLimit redirectLimit n)
    (sent : Http.Request) :
    ((call.verdict (course.outcome n).given).result sent).map (·.map Answer.response) =
      some (course.ending (.integer redirectLimit) n) := by
  unfold ending
  cases given : course.outcome n with
  | fault fault =>
    have refused : ¬ (course.failures n < retryLimit ∧ fault.kind ≠ .secureChannelFailure) := by
      rintro ⟨left, secure⟩
      cases stops with
      | answered passes _ => simp [failsAt, given, Outcome.isFailure] at passes
      | redirected follows _ => simp [followsAt, given, Outcome.isFollowed] at follows
      | failed _ last =>
        rcases last with used | insecure
        · omega
        · simp [given, Outcome.isSecureChannelFailure, secure] at insecure
    rw [Outcome.given, arrived.verdict_fault (orderly.transport n fault given),
      if_neg refused, counted]
    rfl
  | answer response =>
    have refused : ¬ (500 < response.status ∧ course.failures n < retryLimit) := by
      rintro ⟨fails, left⟩
      cases stops with
      | answered passes _ => simp [failsAt, given, Outcome.isFailure, fails] at passes
      | redirected follows _ =>
        have passes := course.not_failsAt_of_followsAt follows
        simp [failsAt, given, Outcome.isFailure, fails] at passes
      | failed _ last =>
        rcases last with used | insecure
        · omega
        · simp [given, Outcome.isSecureChannelFailure] at insecure
    have follows : course.followsAt n = Redirect.follows (course.requestAt n).method response := by
      simp [followsAt, given, Outcome.isFollowed]
    rw [Outcome.given, arrived.verdict_answer, if_neg refused, ← follows]
    cases redirected : course.followsAt n with
    | false => rfl
    | true =>
      have full : redirectLimit ≤ course.redirects n := by
        cases stops with
        | answered _ passes => simp [redirected] at passes
        | failed fails _ => simp [course.not_failsAt_of_followsAt redirected] at fails
        | redirected _ used => omega
      rw [if_pos rfl, if_pos full]
      rfl

/-- A call whose course goes on after a failure sends the same request again. -/
theorem retries (arrived : course.At store retryLimit redirectLimit n call)
    (orderly : course.Orderly) (going : ¬ course.StopsAt retryLimit redirectLimit n)
    (fails : course.failsAt n = true) :
    call.verdict (course.outcome n).given = .again := by
  have used : course.failures n ≠ retryLimit := fun used => going (.failed fails (.inl used))
  have left := (course.counts_of_going arrived.going).2.1
  cases given : course.outcome n with
  | fault fault =>
    have secure : fault.kind ≠ .secureChannelFailure := by
      intro insecure
      apply going
      exact .failed fails (.inr (by simp [given, Outcome.isSecureChannelFailure, insecure]))
    rw [Outcome.given, arrived.verdict_fault (orderly.transport n fault given),
      if_pos ⟨by omega, secure⟩]
  | answer response =>
    simp only [failsAt, given, Outcome.isFailure, decide_eq_true_eq] at fails
    rw [Outcome.given, arrived.verdict_answer, if_pos ⟨fails, by omega⟩]

/-- A call whose course goes on after a redirect sends the request that follows it, if the host of
    its target stands for a name. -/
theorem follows (arrived : course.At store retryLimit redirectLimit n call)
    (orderly : course.Orderly) (going : ¬ course.StopsAt retryLimit redirectLimit n)
    (redirected : course.followsAt n = true) :
    ∃ url, call.verdict (course.outcome n).given = .ofTarget (Redirect.named url) ∧
      course.requestAt (n + 1) = Redirect.followUp (course.requestAt n) url := by
  have used : course.redirects n ≠ redirectLimit := fun used => going (.redirected redirected used)
  have left := (course.counts_of_going arrived.going).2.2
  cases given : course.outcome n with
  | fault fault => simp [followsAt, given, Outcome.isFollowed] at redirected
  | answer response =>
    obtain ⟨url, target⟩ := orderly.resolves n response given redirected
    have reached : Redirect.reached (course.requestAt n).url response.headers =
      Redirect.named url := by
      rw [Redirect.reached, target]
      rfl
    have passes := course.not_failsAt_of_followsAt redirected
    simp only [failsAt, given, Outcome.isFailure, decide_eq_false_iff_not] at passes
    simp only [followsAt, given, Outcome.isFollowed] at redirected
    refine ⟨url, ?_, ?_⟩
    · rw [Outcome.given, arrived.verdict_answer, if_neg fun failed => passes failed.1,
        if_pos redirected, if_neg (by omega), reached]
    · simp only [requestAt, given, Outcome.next, redirected, if_true, target]

/-- A send after which a course goes on without a redirect is a failure. -/
theorem fails_of_going (going : ¬ course.StopsAt retryLimit redirectLimit n)
    (stays : course.followsAt n = false) : course.failsAt n = true := by
  by_contra passes
  exact going (.answered (Bool.eq_false_iff.mpr passes) stays)

/-- The request at a send is the one before it, unless that was redirected. -/
theorem requestAt_succ_of_stays (stays : course.followsAt n = false) :
    course.requestAt (n + 1) = course.requestAt n := by
  rw [requestAt]
  cases given : course.outcome n with
  | fault fault => rfl
  | answer response =>
    simp only [followsAt, given, Outcome.isFollowed] at stays
    simp only [Outcome.next, stays, Bool.false_eq_true, if_false]

/-- A call whose course goes on comes to the next send, if the host of its URL stands for a name. -/
theorem goesOn (arrived : course.At store retryLimit redirectLimit n call)
    (orderly : course.Orderly) (going : ¬ course.StopsAt retryLimit redirectLimit n)
    (named : (course.requestAt (n + 1)).url.IsNamed) (sent : Http.Request) :
    (call.verdict (course.outcome n).given).result sent = none ∧
      course.At store retryLimit redirectLimit (n + 1)
        (call.settle (call.verdict (course.outcome n).given)) := by
  have further : ∀ k < n + 1, ¬ course.StopsAt retryLimit redirectLimit k := by
    intro k before
    rcases Nat.lt_succ_iff_lt_or_eq.mp before with earlier | here
    · exact arrived.going k earlier
    · exact here ▸ going
  cases redirected : course.followsAt n with
  | true =>
    obtain ⟨url, verdict, request⟩ := arrived.follows orderly going redirected
    have passes := course.not_failsAt_of_followsAt redirected
    rw [request] at named
    have reached : Redirect.named url = .ok url := Redirect.named_eq_ok.mpr ⟨rfl, named⟩
    rw [verdict, reached]
    refine ⟨rfl, arrived.equipped, ?_, ?_, ?_, further⟩
    · rw [failures_succ, passes]
      exact arrived.attempt
    · rw [redirects_succ, redirected]
      simp [Verdict.ofTarget, Call.settle, RetryContext.countRedirect, arrived.followed]
    · rw [request, ← arrived.current]
      rfl
  | false =>
    have fails := fails_of_going going redirected
    rw [arrived.retries orderly going fails]
    refine ⟨rfl, arrived.equipped, ?_, ?_, ?_, further⟩
    · rw [failures_succ, fails]
      simp [Call.settle, RetryContext.nextAttempt, arrived.attempt]
    · rw [redirects_succ, redirected]
      exact arrived.followed
    · rw [requestAt_succ_of_stays redirected]
      exact arrived.current

/-- A call whose course goes on to a host that stands for no name ends. -/
theorem strays (arrived : course.At store retryLimit redirectLimit n call)
    (orderly : course.Orderly) (going : ¬ course.StopsAt retryLimit redirectLimit n)
    (named : (course.requestAt n).url.IsNamed) (unnamed : ¬ (course.requestAt (n + 1)).url.IsNamed)
    (sent : Http.Request) :
    ∃ result, (call.verdict (course.outcome n).given).result sent = some result := by
  cases redirected : course.followsAt n with
  | true =>
    obtain ⟨url, verdict, request⟩ := arrived.follows orderly going redirected
    rw [request] at unnamed
    cases reached : Redirect.named url with
    | ok url' => exact absurd (Redirect.named_eq_ok.mp reached).2 unnamed
    | error error =>
      rw [verdict, reached]
      exact ⟨_, rfl⟩
  | false =>
    rw [requestAt_succ_of_stays redirected] at unnamed
    exact absurd named unnamed

end At

theorem requestAt_buffered (n : Nat) : (course.requestAt n).buffered = true := by
  induction n with
  | zero => rfl
  | succ n ih =>
    unfold requestAt Outcome.next
    split
    · split
      · split
        · exact Redirect.followUp_buffered _ _
        · exact ih
      · exact ih
    · exact ih

/-- A script whose sends give the outcomes of the course, whatever is sent and whatever the cookies
    are. -/
def Scripts (script : Exchange.Script) : Prop :=
  ∀ n cookies wire, (script n cookies wire).given = (course.outcome n).given

variable {course} {store : CredentialStore}

theorem SendableAt.named {n : Nat} (sendable : course.SendableAt store n) (covers : store.Covers) :
    (course.requestAt n).url.IsNamed := by
  obtain ⟨credentials, found⟩ := Option.isSome_iff_exists.mp (covers (course.requestAt n).url.scope)
  exact (sendable credentials found).1

/-! ### A step of a call that has come to a send -/

section Step

variable {script : Exchange.Script} (scripts : course.Scripts script) {n : Nat} {call : Call}
  (arrived : course.At store retryLimit redirectLimit n call) (counted : call.context.sends = n)
  {outgoing : Http.Request}
  (prepared : (call.client.prepare call.current).value.2 = .ok outgoing)

include scripts arrived counted prepared

/-- A step whose request is prepared takes what the course has there. -/
theorem At.advance_eq : ∃ call' : Call, course.At store retryLimit redirectLimit n call' ∧
    call'.context.sends = n + 1 ∧
    (call.advance script).result =
      (call'.verdict (course.outcome n).given).result (Exchange.onWire outgoing) ∧
    (call.advance script).call = call'.settle (call'.verdict (course.outcome n).given) := by
  obtain ⟨result, after⟩ := Call.advance_of_sent script prepared
  simp only [Call.Sending.verdict, Call.Sending.after, Call.Sending.sent, Call.Sending.wire,
    counted, Int.toNat_natCast, scripts n] at result after
  exact ⟨_, arrived.afterSend _, by simp [Call.afterSend, RetryContext.countSend, counted],
    result, after⟩

variable (orderly : course.Orderly)

include orderly

/-- At a send that does not stop its course a call goes on to the next one, if the host of the URL
    there stands for a name. -/
theorem At.advance_goesOn (going : ¬ course.StopsAt retryLimit redirectLimit n)
    (named : (course.requestAt (n + 1)).url.IsNamed) :
    (call.advance script).result = none ∧
      course.At store retryLimit redirectLimit (n + 1) (call.advance script).call := by
  obtain ⟨call', arrived', -, result, after⟩ := arrived.advance_eq scripts counted prepared
  rw [result, after]
  exact arrived'.goesOn orderly going named _

/-- A call whose course goes on to a host that stands for no name ends before that. -/
theorem At.advance_strays (going : ¬ course.StopsAt retryLimit redirectLimit n)
    (named : (course.requestAt n).url.IsNamed)
    (unnamed : ¬ (course.requestAt (n + 1)).url.IsNamed) :
    ∃ result, (call.advance script).result = some result := by
  obtain ⟨call', arrived', -, result, -⟩ := arrived.advance_eq scripts counted prepared
  rw [result]
  exact arrived'.strays orderly going named unnamed _

/-- At the send that stops its course a call ends with what the outcome there means. -/
theorem At.advance_ends (stops : course.StopsAt retryLimit redirectLimit n) :
    ∃ result, (call.advance script).result = some result ∧
      result.map Answer.response = course.ending (.integer redirectLimit) n := by
  obtain ⟨call', arrived', counted', result, -⟩ := arrived.advance_eq scripts counted prepared
  rw [result]
  exact Option.map_eq_some_iff.mp (arrived'.ends orderly counted' stops _)

end Step

/-- A call that is given enough steps ends at the first send that stops its course, exactly if every
    request from here until there can be sent. -/
theorem run_stops_iff {script : Exchange.Script} (scripts : course.Scripts script)
    (orderly : course.Orderly) {stop : Nat} (stops : course.StopsAt retryLimit redirectLimit stop)
    (first : ∀ k < stop, ¬ course.StopsAt retryLimit redirectLimit k) (fuel : Nat) {n : Nat}
    {call : Call} (arrived : course.At store retryLimit redirectLimit n call)
    (counted : call.context.sends = n) (ahead : n ≤ stop) (enough : stop < n + fuel) :
    ((call.run script fuel).sends = stop + 1 ∧
        (call.run script fuel).result.map Answer.response = course.ending
        (.integer redirectLimit) stop) ↔
      ∀ k, n ≤ k → k ≤ stop → course.SendableAt store k := by
  -- with every send the call gives up one step and comes one send closer to the stop
  induction fuel generalizing n call with
  | zero => omega
  | succ fuel ih =>
    have buffered : call.current.buffered = true := by
      rw [arrived.current]
      exact course.requestAt_buffered n
    rw [Call.run_succ]
    cases prepared : (call.client.prepare call.current).value.2 with
    | error failure =>
      -- the call ends before this send, and the request cannot be sent
      have barred : ¬ course.SendableAt store n := by
        rw [← arrived.prepare_isOk_iff buffered, prepared]
        rintro ⟨outgoing, ⟨⟩⟩
      have sends : (call.advance script).call.context.sends = call.context.sends :=
        Call.sends_advance_of_refused prepared
      simp only [(Call.advance_of_refused prepared).1, Call.finish, sends, counted]
      exact iff_of_false (by rintro ⟨all, -⟩; omega) fun all => barred (all n (Nat.le_refl n) ahead)
    | ok outgoing =>
      have sendable := (arrived.prepare_isOk_iff buffered).mp ⟨outgoing, prepared⟩
      have sends := Call.sends_advance_of_sent script prepared
      rw [counted] at sends
      rcases Nat.lt_or_eq_of_le ahead with before | rfl
      · by_cases named : (course.requestAt (n + 1)).url.IsNamed
        · obtain ⟨going, next⟩ :=
            arrived.advance_goesOn scripts counted prepared orderly (first n before) named
          simp only [going]
          rw [ih next sends before (by omega)]
          constructor
          · intro later k lower upper
            rcases Nat.lt_or_eq_of_le lower with after | rfl
            · exact later k after upper
            · exact sendable
          · exact fun all k lower => all k (by omega)
        · obtain ⟨result, ended⟩ := arrived.advance_strays scripts counted prepared orderly
            (first n before) (sendable.named arrived.equipped.covers) named
          simp only [ended, Call.finish, sends]
          refine iff_of_false (by rintro ⟨all, -⟩; omega) fun all => named ?_
          exact (all (n + 1) (by omega) before).named arrived.equipped.covers
      · obtain ⟨result, ended, ending⟩ :=
          arrived.advance_ends scripts counted prepared orderly stops
        simp only [ended, Call.finish, sends, ending, and_true]
        refine iff_of_true (by omega) fun k lower upper => ?_
        exact Nat.le_antisymm lower upper ▸ sendable

/-- A new client comes to the start of every course. -/
theorem start_at {config : Config} {c : Client} (made : c.MadeFrom config)
    (retries : config.retryCount = .integer retryLimit)
    (redirects : config.maxRedirects = .integer redirectLimit) (course : Course) :
    course.At c.session.store retryLimit redirectLimit 0 (Call.start c course.request) where
  equipped :=
    ⟨by rw [← retries]; exact made.transportRetries, made.resendsSent,
      by rw [← retries]; exact made.statusRetries,
      by rw [← redirects, ← made.settings]; rfl, made.covers, rfl, made.settled⟩
  attempt := rfl
  followed := rfl
  current := rfl
  going := by simp

/-- What a run is to be that stops at a send of its course: it has sent one request for each send
    until then, and ends with what that send gave. -/
structure EndsAt (limit : Number) (stop : Nat) (run : Call.Run) : Prop where
  sends : run.sends = stop + 1
  requests : (Event.requests run.events).length = stop + 1
  result : run.result.map Answer.response = course.ending limit stop

end

end Course

namespace Client

section

variable [Codecs]

/-- A call of a new client stops at the first send that its course stops at, whatever failures,
    answers and redirects come in what order, and within its budgets, exactly if every request until
    then can be sent. -/
theorem execute_stops_iff {given : Config.Overrides} {config : Config} {logger : Option String}
    {created : Logged Client} (accepted : Config.create given = .ok config)
    (built : create config logger = .ok created) {retries redirects : Int}
    (retriesGiven : config.maxRetries = .integer retries)
    (redirectsGiven : config.maxRedirects = .integer redirects) (course : Course)
    (orderly : course.Orderly) {script : Exchange.Script} (scripts : course.Scripts script) :
    ∃ retryLimit redirectLimit : Nat,
      config.retryCount = .integer retryLimit ∧ config.maxRedirects = .integer redirectLimit ∧
        ∃ stop, IsLeast {n | course.StopsAt retryLimit redirectLimit n} stop ∧
          stop ≤ retryLimit + redirectLimit ∧
          (course.EndsAt config.maxRedirects stop (created.value.execute course.request script) ↔
            ∀ n ≤ stop, course.SendableAt created.value.session.store n) := by
  have made := create_madeFrom built
  obtain ⟨retryLimit, retryCount⟩ := Config.retryCount_integer retriesGiven
  have sign : (Number.integer redirects).less 0 = decide (redirects < 0) :=
    Number.less_integer redirects 0
  have nonneg := Config.maxRedirects_of_create accepted
  rw [redirectsGiven, sign, decide_eq_false_iff_not] at nonneg
  obtain ⟨redirectLimit, rfl⟩ := Int.eq_ofNat_of_zero_le (Int.not_lt.mp nonneg)
  refine ⟨retryLimit, redirectLimit, retryCount, redirectsGiven, ?_⟩
  classical
  have stops : ∃ n, course.StopsAt retryLimit redirectLimit n :=
    (course.exists_stop retryLimit redirectLimit).imp fun n => And.right
  have least : IsLeast {n | course.StopsAt retryLimit redirectLimit n} (Nat.find stops) :=
    ⟨Nat.find_spec stops, fun n h => Nat.find_min' stops h⟩
  obtain ⟨late, within, stopsLate⟩ := course.exists_stop retryLimit redirectLimit
  have bound : Nat.find stops ≤ retryLimit + redirectLimit :=
    Nat.le_trans (least.2 stopsLate) within
  have limits : created.value.Limits retryLimit redirectLimit :=
    ⟨by rw [made.transportRetries, retryCount]; rfl, by rw [made.statusRetries, retryCount]; rfl,
      by rw [made.settings, redirectsGiven]; rfl⟩
  have ran : created.value.execute course.request script =
      (Call.start created.value course.request).run script (retryLimit + redirectLimit + 1) := by
    rw [execute_of_open made.isOpen, limits.maxSends]
  have ends := Course.run_stops_iff scripts orderly (Nat.find_spec stops)
    (fun k before => Nat.find_min stops before) (retryLimit + redirectLimit + 1)
    (Course.start_at made retryCount redirectsGiven course) rfl (Nat.zero_le _) (by omega)
  rw [← ran] at ends
  refine ⟨Nat.find stops, least, bound, ?_⟩
  constructor
  · intro ended n upper
    exact ends.mp ⟨ended.sends, redirectsGiven ▸ ended.result⟩ n (Nat.zero_le n) upper
  · intro sendable
    obtain ⟨sends, result⟩ := ends.mpr fun n _ upper => sendable n upper
    refine ⟨sends, ?_, redirectsGiven ▸ result⟩
    rw [requests_execute, List.length_map, ← sends_execute, sends]

end

end Client

attribute [local instance] Codecs.plain

/-- A course that is late, then redirected, then answered. -/
def Course.late : Course where
  request := .toHost "GET" .none
  outcome
    | 0 => .fault (.single (.timeout (some .read)) "timed out")
    | 1 => .redirect "/b"
    | _ => .status 200

theorem Course.late_orderly : late.Orderly where
  transport n fault given := by
    match n with
    | 0 => cases given; rfl
    | 1 => cases given
    | n + 2 => cases given
  resolves n response given redirected := by
    match n with
    | 0 => cases given
    | 1 =>
      cases given
      exact ⟨⟨"https".toList, [], ['h'], none, ['/', 'b'], none, none⟩, by decide +kernel⟩
    | n + 2 =>
      have stays : late.followsAt (n + 2) = false := rfl
      simp [stays] at redirected

theorem Client.execute_stops_late :
    Config.create .none = .ok .default ∧
      ∃ created, create .default none = .ok created ∧
        ∃ retryLimit redirectLimit : Nat,
          Config.default.retryCount = .integer retryLimit ∧
          Config.default.maxRedirects = .integer redirectLimit ∧
            ∃ stop, IsLeast {n | Course.late.StopsAt retryLimit redirectLimit n} stop ∧
              stop ≤ retryLimit + redirectLimit ∧
              let script n cookies _ := ⟨(Course.late.outcome n).given, cookies⟩
              (Course.late.EndsAt Config.default.maxRedirects stop
                  (created.value.execute Course.late.request script) ↔
                ∀ n ≤ stop, Course.late.SendableAt created.value.session.store n) := by
  obtain ⟨created, built⟩ : ∃ created, create .default none = .ok created := ⟨_, rfl⟩
  exact ⟨Config.create_none, created, built, execute_stops_iff Config.create_none built rfl rfl
    Course.late Course.late_orderly fun _ _ _ => rfl⟩

/-- A course that is answered, for a URL whose host stands for no name. -/
def Course.unnamed : Course where
  request := .create "GET" ⟨"http".toList, [], "xn--.ws".toList, none, ['/'], none, none⟩
    ⟨[⟨Http.FieldName.host, Utf8.ofString "h"⟩]⟩ .none
  outcome _ := .status 200

/-- A call of a new client ends before its first send where its course stops with it. -/
theorem Client.execute_unnamed :
    ∃ created, create .default none = .ok created ∧ Course.unnamed.Orderly ∧
      IsLeast {n | Course.unnamed.StopsAt 3 50 n} 0 ∧
        let run :=
          created.value.execute Course.unnamed.request (.ofOutcomes 0 Course.unnamed.outcome)
        run.sends = 0 ∧ Event.requests run.events = [] ∧
          ∃ error, run.result.map Answer.response = .error (.name error) := by
  have stays : ∀ n, Course.unnamed.followsAt n = false := fun _ => rfl
  have orderly : Course.unnamed.Orderly := by
    constructor
    · intro n fault given
      cases given
    · intro n response _ redirected
      rw [stays] at redirected
      cases redirected
  exact ⟨_, rfl, orderly, ⟨.answered rfl (stays 0), fun _ _ => Nat.zero_le _⟩, rfl, rfl, _, rfl⟩

end Courier
