import Courier.Http.Request
import Courier.Log.Record

/-!
# Retrying after a failed send

A send that ended with a fault is repeated when three things hold: the attempt is not beyond the
number of retries, the kind of the fault is not one that is never retried, and sending again is
safe. It is safe for a request that encloses no body, for one that was not sent yet, and for every
other one too when the policy allows it.
-/

namespace Courier

/-- When to send again after a fault. -/
structure TransportRetry where
  maxRetries : Number
  /-- Whether a request that may have been sent is sent again. -/
  resendsSent : Bool
  logger : String
  deriving DecidableEq, Repr, Inhabited

namespace TransportRetry

/-- The logger of a policy that was given none. -/
def loggerName : String := "preemptive.retry.exception_policy"

/-- Whether it is safe to send a request again. -/
def isSafe (p : TransportRetry) (request : Option Http.Request) (maySent : Bool) : Bool :=
  request.any Http.Request.isIdempotent || !maySent || p.resendsSent

/-- Whether a failed attempt is followed by another one. -/
def allows (p : TransportRetry) (kind : Fault.Kind) (attempt : Int)
    (request : Option Http.Request) (maySent : Bool) : Bool :=
  !p.maxRetries.less (.integer attempt) && !Fault.Kind.nonRetriable.contains kind
    && p.isSafe request maySent

/-- The record of a retry. -/
def retryRecord (p : TransportRetry) (kind : Fault.Kind) (attempt : Int) : Log.Record where
  logger := p.logger
  level := .warning
  message := s!"Attempting retry #{attempt}"
  fields := [("attempt", .integer attempt), ("error_kind", .string kind.label)]
  fault := none

/-- Decides whether a failed attempt is followed by another one, with a record if it is. -/
def shouldRetry (p : TransportRetry) (kind : Fault.Kind) (attempt : Int)
    (request : Option Http.Request) (maySent : Bool) : Logged Bool :=
  if p.allows kind attempt request maySent then ⟨true, [p.retryRecord kind attempt]⟩
  else ⟨false, []⟩

/-- The record of a failed send. -/
def failureRecord (p : TransportRetry) (request : Http.Request) (fault : Fault)
    (kind : Fault.Kind) : Log.Record where
  logger := p.logger
  level := .warning
  message := s!"Error occurred for request {request.line}: {fault.text}."
  fields :=
    [("url", .string (toString request.url)), ("method", .string request.method),
     ("error_kind", .string kind.label)]
  fault := none

end TransportRetry

end Courier
