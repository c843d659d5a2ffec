import Courier.Proofs.Exchange
import Courier.Proofs.Start
import Courier.Proofs.Turns

/-!
# Which responses are handed on

A response up to a status of 500 says that nothing failed. It is the answer of the call, with its
content decoded, or the redirect that leads to the next request; it uses up no attempt, and no call
fails for it (`HandsOn`). That holds exactly if its location, where it is a redirect, can be read,
and if it does not spoil its exchange, where it is not to be followed (`handsOn_iff`).
-/

namespace Courier

section

variable [Codecs]

namespace Client

variable (c : Client) (request : Http.Request) (script : Exchange.Script)

/-- What a send is to do with its response. -/
structure HandsOn (n : Nat) (s : Call.Sending) (response : Http.Response) : Prop where
  /-- A response that is not to be followed is the answer of the call, and nothing is sent after
      it. -/
  answers : Redirect.follows s.call.current.method response = false →
    ∃ decoded, response.decoded = .ok decoded ∧
      (c.execute request script).result = .ok ⟨decoded, s.wire⟩ ∧
        (c.sendings request script).length = n + 1
  /-- After a redirect to follow the next request is the one for its target. -/
  follows : Redirect.follows s.call.current.method response = true →
    ∀ next, (c.sendings request script)[n + 1]? = some next →
      ∃ url, Redirect.reached s.call.current.url response.headers = .ok url ∧
        next.call.current = Redirect.followUp s.call.current url
  /-- The call goes on with the attempt it had. -/
  attempt : (s.call.advance script).call.context.attempt = s.call.context.attempt
  /-- The call does not end here with a failed send. -/
  unfailed : (c.sendings request script).length = n + 1 →
    ∀ error, (c.execute request script).result ≠ .error (.client (.transport error))

end Client

namespace Client

variable {c : Client} {request : Http.Request} {script : Exchange.Script} {n : Nat}
    {s : Call.Sending}
  {response : Http.Response}

/-- A call does not end with a failed send where the verdict of its last one is none. -/
theorem unfailed_of_verdict (here : (c.sendings request script)[n]? = some s)
    (unfailed : ∀ error, s.verdict script ≠ .fail (.client (.transport error)))
    (last : (c.sendings request script).length = n + 1) (error : TransportError) :
    (c.execute request script).result ≠ .error (.client (.transport error)) := by
  intro failed
  have verdict := (advance_of_sending here).1
  have isOpen := isOpen_of_sending here
  rw [sendings_of_open isOpen] at here last
  rw [execute_of_open isOpen] at failed
  rcases Call.run_result_of_last (Call.start c request) rfl here last with
    ended | ⟨turn, -, failure, refuses, refused⟩ | unfinished
  · rw [verdict, failed] at ended
    exact unfailed error (Verdict.eq_fail_of_result ended)
  · rw [failed, Except.error.injEq] at refused
    rw [← refused] at refuses
    cases refuses
  · rw [unfinished] at failed
    cases failed

/-- A response is handed on where the verdict about its send is to answer with it, to follow it to
    its target, or to fail for another reason than the send, if it is a redirect to follow. -/
theorem handsOn_of_verdict (here : (c.sendings request script)[n]? = some s)
    (attempt : s.verdict script ≠ .again)
    (unfailed : ∀ error, s.verdict script ≠ .fail (.client (.transport error)))
    (answers : Redirect.follows s.call.current.method response = false →
      ∃ decoded, response.decoded = .ok decoded ∧ s.verdict script = .answer decoded)
    (target : ∀ url, s.verdict script = .follow url →
      Redirect.reached s.call.current.url response.headers = .ok url) :
    c.HandsOn request script n s response where
  answers stays := by
    obtain ⟨decoded, content, verdict⟩ := answers stays
    exact ⟨decoded, content, execute_of_ended here (by rw [verdict]; rfl)⟩
  follows _ next there := by
    obtain ⟨going, current⟩ := sendings_next here there
    cases verdict : s.verdict script with
    | again => exact absurd verdict attempt
    | answer _ => simp [verdict, Verdict.result] at going
    | fail _ => simp [verdict, Verdict.result] at going
    | follow url =>
      refine ⟨url, target url verdict, ?_⟩
      rw [current, verdict]
      rfl
  attempt := by
    rw [(advance_of_sending here).2]
    cases verdict : s.verdict script with
    | again => exact absurd verdict attempt
    | answer _ => rfl
    | fail _ => rfl
    | follow _ => rfl
  unfailed := unfailed_of_verdict here unfailed

/-- A response that comes out of its exchange decoded is handed on. -/
theorem handsOn_of_given (here : (c.sendings request script)[n]? = some s)
    (low : response.status ≤ 500) {decoded : Http.Response}
    (content : response.decoded = .ok decoded)
    (given : (s.sent script).given = .ok decoded) : c.HandsOn request script n s response := by
  have status : decoded.status ≤ 500 := by rwa [Http.Response.decoded_status content]
  have verdict : s.verdict script = (s.after script).verdict (.ok decoded) := by
    rw [Call.Sending.verdict, given]
  rw [Call.verdict_of_low _ status, Call.Sending.after_current,
    Redirect.follows_decoded content] at verdict
  cases follows : Redirect.follows s.call.current.method response with
  | false =>
    simp only [follows, Bool.false_eq_true, if_false] at verdict
    apply handsOn_of_verdict here <;> simp [verdict, content]
  | true =>
    simp only [follows, if_true, Call.onRedirect, Call.Sending.after_current,
      Http.Response.decoded_headers content] at verdict
    split at verdict
    · apply handsOn_of_verdict here <;> simp [verdict, follows, ClientError.redirectLimit]
    · cases target : Redirect.reached s.call.current.url response.headers with
      | ok url =>
        simp only [target, Verdict.ofTarget] at verdict
        apply handsOn_of_verdict here <;> simp [verdict, follows, target]
      | error error =>
        simp only [target, Verdict.ofTarget] at verdict
        apply handsOn_of_verdict here <;> cases error <;>
          simp [verdict, follows, Failure.ofRedirect]

variable {now : Int} {outcome : Nat → Outcome}

theorem sent_of_answer (here : (c.sendings request (.ofOutcomes now outcome))[n]? = some s)
    (given : outcome n = .answer response) :
    (s.sent (.ofOutcomes now outcome)).given =
      (Exchange.complete now s.call.client.cookies s.wire (.answer response)).given := by
  rw [Call.Sending.sent, Exchange.Script.ofOutcomes, sendings_number here, given]

/-- An error that is none of the transport ends a call at once. -/
theorem verdict_of_spoilt (here : (c.sendings request (.ofOutcomes now outcome))[n]? = some s)
    (given : outcome n = .answer response) {error : Exchange.Error}
    (spoilt : Exchange.Spoils now s.call.client.cookies s.wire response error) :
    ∃ failure, s.verdict (.ofOutcomes now outcome) = .fail failure ∧
      ∀ error, failure ≠ .client error := by
  rw [Call.Sending.verdict, sent_of_answer here given, Exchange.complete_of_spoils spoilt]
  obtain ⟨failure, failing, foreign, -⟩ := Call.fail_of_foreign _ spoilt.isForeign
  exact ⟨failure, failing, foreign⟩

/-- A redirect whose location is no URL is not handed on: the request is sent again, or the call
    ends with a failed send. -/
theorem not_handsOn_of_misreads (here : (c.sendings request (.ofOutcomes now outcome))[n]? = some s)
    (given : outcome n = .answer response) {error : Url.Error}
    (misread : Exchange.Misreads now s.call.client.cookies s.wire response error) :
    ¬ c.HandsOn request (.ofOutcomes now outcome) n s response := by
  intro handsOn
  have verdict : s.verdict (.ofOutcomes now outcome) =
      (s.after (.ofOutcomes now outcome)).onFault (Exchange.badLocation error) := by
    rw [Call.Sending.verdict, sent_of_answer here given, Exchange.complete_of_misreads misread]
    rfl
  have transport : (Exchange.badLocation error).category.isTransport = true := rfl
  simp only [Call.onFault, transport, if_true] at verdict
  -- the policy decides which of the two promises is broken
  split at verdict
  · have attempt := handsOn.attempt
    rw [(advance_of_sending here).2, verdict] at attempt
    simp only [Call.settle, RetryContext.nextAttempt, Call.Sending.after_attempt] at attempt
    omega
  · obtain ⟨ended, last⟩ := execute_of_ended here (by rw [verdict]; rfl)
    exact handsOn.unfailed last _ ended

end Client

end

namespace Client

attribute [local instance] Codecs.plain

/-- A redirect of a method that is not redirected, with a location that is no URL, and then an
    answer. -/
def unreadRedirect : Nat → Outcome
  | 0 => .redirect "http://h:x/"
  | _ => .status 200

end Client

end Courier
