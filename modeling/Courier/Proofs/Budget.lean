import Courier.Proofs.Number
import Courier.Proofs.Run

/-!
# A call keeps to its budgets

Where the retries and the redirects of a client both have a limit, every step of a call that does
not end it uses up one of them. `Call.remaining` is what is left of both; it falls with every step,
so a call with more steps than that reaches an end (`run_finishes`).
-/

namespace Courier

namespace Budget

/-- An attempt that is not above a number is within the budget it makes. -/
theorem attempt_le {n : Number} {count : Nat} (h : ofRetries n = limited count) {attempt : Int}
    (allowed : n.less (.integer attempt) = false) : attempt ≤ count := by
  unfold ofRetries at h
  cases floor : n.floor? with
  | some floor' =>
    simp only [floor, limited.injEq] at h
    rw [Number.less_of_floor floor, decide_eq_false_iff_not] at allowed
    omega
  | none =>
    simp only [floor] at h
    split at h
    · rename_i negative
      rw [Number.less_of_no_floor floor negative] at allowed
      cases allowed
    · cases h

/-- A count of redirects that a number is above is within the budget it makes. -/
theorem redirects_lt {n : Number} {count : Nat} (h : ofRedirects n = limited count)
    {redirects : Int} (allowed : n.atMost (.integer redirects) = false) : redirects < count := by
  unfold ofRedirects at h
  cases ceiling : n.ceiling? with
  | some ceiling' =>
    simp only [ceiling, limited.injEq] at h
    rw [Number.atMost_of_ceiling ceiling, decide_eq_false_iff_not] at allowed
    omega
  | none =>
    simp only [ceiling] at h
    split at h
    · rename_i negative
      rw [Number.atMost_of_no_ceiling ceiling negative] at allowed
      cases allowed
    · cases h

end Budget

/-- A client whose calls may be retried and redirected so often. -/
structure Client.Limits (c : Client) (retries redirects : Nat) : Prop where
  transport : Budget.ofRetries c.transportRetry.maxRetries = .limited retries
  status : Budget.ofRetries c.statusRetry.maxRetries = .limited retries
  redirects : Budget.ofRedirects c.config.maxRedirects = .limited redirects

namespace Client.Limits

variable {c c' : Client} {retries redirects : Nat}

theorem of_continues (limits : c.Limits retries redirects) (continues : c.Continues c') :
    c'.Limits retries redirects where
  transport := by rw [continues.transportRetry, limits.transport]
  status := by rw [continues.statusRetry, limits.status]
  redirects := by rw [continues.config, limits.redirects]

theorem maxSends (limits : c.Limits retries redirects) : c.maxSends = retries + redirects + 1 := by
  unfold Client.maxSends
  simp only [apply_ite Budget.ofRetries, limits.transport, limits.status,
    limits.redirects, ite_self, Budget.steps]

end Client.Limits

namespace Call

/-- A call that has not used up more than its budgets. -/
structure Within (retries redirects : Nat) (call : Call) : Prop where
  limits : call.client.Limits retries redirects
  attempt_le : call.context.attempt ≤ retries + 1
  redirects_le : call.context.redirects ≤ redirects

/-- How many retries and redirects are left to a call. -/
def remaining (retries redirects : Nat) (call : Call) : Int :=
  (retries + 1 - call.context.attempt) + (redirects - call.context.redirects)

variable [Codecs] {retries redirects : Nat} {script : Exchange.Script}

theorem Within.afterSend {call : Call} (within : call.Within retries redirects)
    (cookies : Http.CookieJar) : (call.afterSend cookies).Within retries redirects :=
  ⟨within.limits.of_continues (call.afterSend_continues cookies), within.attempt_le,
    within.redirects_le⟩

/-- A call sends a request again only within its retries. -/
theorem attempt_le_of_again {call : Call} (limits : call.client.Limits retries redirects)
    {given : Except Exchange.Error Http.Response} (again : call.verdict given = .again) :
    call.context.attempt ≤ retries := by
  have decided := call.decides_verdict given
  rw [again] at decided
  cases decided with
  | retryFault transport allowed =>
    simp only [TransportRetry.allows, Bool.and_eq_true, Bool.not_eq_true'] at allowed
    exact Budget.attempt_le limits.transport allowed.1.1
  | retryStatus allowed =>
    simp only [StatusRetry.allows, Bool.and_eq_true, Bool.not_eq_true'] at allowed
    exact Budget.attempt_le limits.status allowed.2

/-- A call follows a redirect only within its redirects. -/
theorem redirects_lt_of_follow {call : Call} (limits : call.client.Limits retries redirects)
    {given : Except Exchange.Error Http.Response} {url : Url}
    (follow : call.verdict given = .follow url) : call.context.redirects < redirects := by
  have decided := call.decides_verdict given
  rw [follow] at decided
  cases decided with
  | followed _ _ free _ => exact Budget.redirects_lt limits.redirects free

/-- A verdict that does not end a call uses up a retry or a redirect. -/
theorem Within.settle {call : Call} (within : call.Within retries redirects)
    {given : Except Exchange.Error Http.Response} {sent : Http.Request}
    (going : (call.verdict given).result sent = none) :
    (call.settle (call.verdict given)).Within retries redirects ∧
      remaining retries redirects (call.settle (call.verdict given)) + 1 =
        remaining retries redirects call := by
  cases decided : call.verdict given with
  | again =>
    have allowed := attempt_le_of_again within.limits decided
    refine ⟨⟨within.limits, ?_, within.redirects_le⟩, ?_⟩
    · simp only [Call.settle, RetryContext.nextAttempt]
      omega
    · simp only [Call.settle, RetryContext.nextAttempt, remaining]
      omega
  | follow url =>
    have allowed := redirects_lt_of_follow within.limits decided
    refine ⟨⟨within.limits, within.attempt_le, ?_⟩, ?_⟩
    · simp only [Call.settle, RetryContext.countRedirect]
      omega
    · simp only [Call.settle, RetryContext.countRedirect, remaining]
      omega
  | answer response => simp [decided, Verdict.result] at going
  | fail failure => simp [decided, Verdict.result] at going

/-- Every step that does not end a call uses up a retry or a redirect. -/
theorem Within.advance {call : Call} (within : call.Within retries redirects)
    (going : (call.advance script).result = none) :
    (call.advance script).call.Within retries redirects ∧
      remaining retries redirects (call.advance script).call + 1 =
        remaining retries redirects call := by
  cases prepared : (call.client.prepare call.current).value.2 with
  | error failure => simp [(advance_of_refused prepared).1] at going
  | ok outgoing =>
    obtain ⟨result, after⟩ := advance_of_sent script prepared
    rw [result] at going
    rw [after]
    exact (within.afterSend _).settle going

/-- No verdict says that a call is still going on. -/
theorem verdict_ne_unfinished (call : Call) (given : Except Exchange.Error Http.Response) :
    call.verdict given ≠ .fail .unfinished := by
  intro unfinished
  have decided := call.decides_verdict given
  rw [unfinished] at decided
  generalize stuck : Verdict.fail .unfinished = verdict at decided
  cases decided with
  | lostTarget _ _ _ _ =>
    rename_i error _ _ _ _
    cases error <;> simp [Failure.ofRedirect] at stuck
  | _ => simp at stuck

variable (script) in
theorem result_advance_ne_unfinished {call : Call} (buffered : call.current.buffered = true) :
    (call.advance script).result ≠ some (.error .unfinished) := by
  cases prepared : (call.client.prepare call.current).value.2 with
  | error failure =>
    rw [(advance_of_refused prepared).1]
    rintro ⟨⟩
    cases call.client.prepare_eq_error call.current buffered prepared
  | ok outgoing =>
    rw [(advance_of_sent script prepared).1]
    intro unfinished
    apply verdict_ne_unfinished _ _ (Verdict.eq_fail_of_result unfinished)

/-- A call that is given more steps than its budgets allow reaches an end. -/
theorem run_finishes (fuel : Nat) (call : Call) (within : call.Within retries redirects)
    (buffered : call.current.buffered = true) (enough : remaining retries redirects call < fuel) :
    (call.run script fuel).result ≠ .error .unfinished := by
  induction fuel generalizing call with
  | zero =>
    have attempts := within.attempt_le
    have counted := within.redirects_le
    simp only [remaining] at enough
    omega
  | succ fuel ih =>
    rw [run_succ]
    cases ended : (call.advance script).result with
    | some result =>
      intro unfinished
      apply result_advance_ne_unfinished script buffered
      simpa [finish, ended] using unfinished
    | none =>
      obtain ⟨within', less⟩ := within.advance ended
      exact ih _ within' (advance_buffered buffered) (by omega)

end Call

namespace Client

/-- A call of a client with limits reaches an end. -/
theorem execute_finishes [Codecs] {c : Client} {retries redirects : Nat}
    (limits : c.Limits retries redirects) (request : Http.Request) (script : Exchange.Script) :
    (c.execute request script).result ≠ .error .unfinished := by
  unfold execute
  split
  · simp
  · rw [limits.maxSends]
    have within : (Call.start c request).Within retries redirects :=
      ⟨limits, by simp only [Call.start, RetryContext.start]; omega,
        by simp [Call.start, RetryContext.start]⟩
    apply Call.run_finishes _ _ within rfl
    simp only [Call.remaining, Call.start, RetryContext.start]
    omega

end Client

end Courier
