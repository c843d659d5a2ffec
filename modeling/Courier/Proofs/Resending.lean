import Courier.Proofs.Case
import Courier.Proofs.SecureChannel
import Courier.Proofs.Turns

/-!
# When a failed request is sent again

The policy of faults is asked with the kind of a fault and with whether the request may have been
sent. Both come from the same fault, whose category may say that nothing was sent while its chain
says that the secure channel failed; the second counts more. `TransportRetry.ResendLaw` tells the
answer by the fault itself. A policy that does not resend what may have been sent keeps to it over
whole calls: whatever came before, such a failure of a request that encloses a body is the last
thing that happens in its call.
-/

namespace Courier

/-- A request is built with its method in upper case, so it is looked up as it is. -/
theorem Http.Request.isIdempotent_create (method : String) (url : Url) (headers : Headers)
    (body : Body) :
    (create method url headers body).isIdempotent =
      nonEnclosingMethods.contains (create method url headers body).method := by
  simp only [isIdempotent, create, Text.upper_upper]

/-- The faults that come before anything can have been sent: no connection was made in time, made at
    all, or given by the pool. -/
def Fault.unsentCategories : List Fault.Category :=
  [.network (some .connect), .timeout (some .connect), .timeout (some .pool)]

theorem Fault.mayHaveBeenSent_eq_false_iff (fault : Fault) :
    fault.mayHaveBeenSent = false ↔ fault.category ∈ unsentCategories := by
  unfold mayHaveBeenSent unsentCategories
  generalize fault.category = category
  cases category with
  | network use =>
    cases use with
    | none => decide
    | some use => cases use <;> decide
  | timeout wait =>
    cases wait with
    | none => decide
    | some wait => cases wait <;> decide
  | _ => simp [Category.precedesSending]

namespace TransportRetry

/-- What a policy is asked about a failed send. -/
def decision (p : TransportRetry) (fault : Fault) (request : Http.Request) (attempt : Int) :
    Logged Bool :=
  p.shouldRetry fault.kind attempt (some request) fault.mayHaveBeenSent

/-- A policy allows another attempt within its retries, after a fault without a TLS failure on its
    chain, if sending again is safe. -/
theorem allows_iff (p : TransportRetry) (fault : Fault) (request : Http.Request) (attempt : Int) :
    p.allows fault.kind attempt (some request) fault.mayHaveBeenSent = true ↔
      p.maxRetries.less (.integer attempt) = false ∧
        (∀ node ∈ fault.chainNodes, node.category.isTls = false) ∧
          (request.isIdempotent = true ∨ fault.category ∈ Fault.unsentCategories ∨
            p.resendsSent = true) := by
  have secure : Fault.Kind.nonRetriable.contains fault.kind = false ↔
      ∀ node ∈ fault.chainNodes, node.category.isTls = false := by
    rw [← Bool.not_eq_true, ← not_iff_not, not_not]
    have insecure := Fault.kind_eq_secureChannelFailure_iff_any (f := fault)
    simpa [Fault.Kind.nonRetriable] using insecure
  simp only [allows, isSafe, Option.any_some, Bool.and_eq_true, Bool.or_eq_true,
    Bool.not_eq_true', secure, Fault.mayHaveBeenSent_eq_false_iff, and_assoc, or_assoc]

/-- How a policy with this number of retries is to decide about failed sends. -/
structure ResendLaw [Codecs] (p : TransportRetry) (maxRetries : Int) : Prop where
  answers : ∀ fault attempt method url headers body,
    let request := Http.Request.create method url headers body
    (p.decision fault request attempt).value = true ↔
      attempt ≤ maxRetries ∧ (∀ node ∈ fault.chainNodes, node.category.isTls = false) ∧
        (request.method ∈ ["GET", "HEAD", "OPTIONS", "TRACE", "DELETE"] ∨
          fault.category ∈ Fault.unsentCategories ∨ p.resendsSent = true)
  /-- There is a record of the retry exactly if there is to be one. -/
  tells : ∀ fault request attempt,
    (p.decision fault request attempt).records =
      if (p.decision fault request attempt).value then
        [{ logger := p.logger, level := .warning, message := s!"Attempting retry #{attempt}"
           fields := [("attempt", .integer attempt), ("error_kind", .string fault.kind.label)],
             fault := none }]
      else []
  /-- Whatever a call has come through, a request that encloses a body is not sent again after a
      failure by which it may have been sent, unless the policy is one that does so. -/
  cautious : p.resendsSent = false →
    ∀ (c : Client) (origin : Http.Request) (script : Exchange.Script),
    c.transportRetry = p → ∀ (n : Nat) (s : Call.Sending) (fault : Fault),
      (c.sendings origin script)[n]? = some s → (s.sent script).given = .error (.fault fault) →
        s.outgoing.method ∈ ["POST", "PUT", "PATCH"] → fault.category ∉ Fault.unsentCategories →
          (c.sendings origin script).length = n + 1

end TransportRetry

/-- Every policy decides about failed sends as it is to do. -/
theorem TransportRetry.resendLaw [Codecs] (maxRetries : Int) (resendsSent : Bool)
    (logger : String) :
    ResendLaw ⟨.integer maxRetries, resendsSent, logger⟩ maxRetries := by
  refine ⟨?_, ?_, ?_⟩
  · intro fault attempt method url headers body request
    rw [decision, shouldRetry_value, allows_iff, Http.Request.isIdempotent_create,
      Number.less_integer,
      decide_eq_false_iff_not, Int.not_lt, List.contains_iff_mem, Http.nonEnclosingMethods]
  · intro fault request attempt
    rw [decision, shouldRetry_value]
    unfold shouldRetry
    split <;> rfl
  · intro cautious c origin script policy n s fault here given encloses sent
    apply Client.last_of_not_allows here given
    rw [policy, ← Bool.not_eq_true, allows_iff]
    rintro ⟨-, -, safe⟩
    have method :=
      s.call.client.prepare_method _ (Client.turn_of_sending (List.mem_of_getElem? here)).2
    rcases safe with idempotent | unsent | resends
    · rw [Http.Request.isIdempotent, ← method, List.contains_iff_mem] at idempotent
      simp only [List.mem_cons, List.not_mem_nil, or_false] at encloses
      rcases encloses with post | put | patch
      · simp [post, Http.nonEnclosingMethods] at idempotent
      · simp [put, Http.nonEnclosingMethods] at idempotent
      · simp [patch, Http.nonEnclosingMethods] at idempotent
    · exact sent unsent
    · rw [cautious] at resends
      cases resends

end Courier
