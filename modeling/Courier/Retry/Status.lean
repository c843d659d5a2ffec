import Courier.Config.Basic
import Courier.Http.Response
import Courier.Log.Record

/-!
# Retrying after a status

A response with a status above 500 says that the server is not available, and the request is sent
again while the attempt is not beyond the number of retries. A status of 500 is the answer of an
application, and is kept like every status below it.
-/

namespace Courier

/-- When to send again after a response, and how long to wait before. -/
structure StatusRetry where
  maxRetries : Number
  interval : Number
  logger : String
  deriving DecidableEq, Repr, Inhabited

namespace StatusRetry

/-- The logger of a policy that was given none. -/
def loggerName : String := "preemptive.retry.status_policy"

/-- A policy, if the interval is not below zero. -/
def create (maxRetries interval : Number) (logger : String) : Except Config.Error StatusRetry := do
  Config.checkRetryInterval interval
  return { maxRetries, interval, logger }

/-- Whether a response says that the server is not available. -/
def isFailure (response : Http.Response) : Bool := 500 < response.status

/-- Whether a failed attempt is followed by another one. -/
def allows (p : StatusRetry) (response : Http.Response) (attempt : Int) : Bool :=
  isFailure response && !p.maxRetries.less (.integer attempt)

/-- The record of a response that says that the server is not available. -/
def failureRecord (p : StatusRetry) (response : Http.Response) (request : Option Http.Request) :
    Log.Record where
  logger := p.logger
  level := .warning
  message :=
    let line := (request.map Http.Request.line).getD "<unknown>"
    s!"Error occurred for request {line}. Received status code {response.status} "
      ++ s!"and message: {response.reason}."
  fields :=
    [("url", .ofOption (request.map (toString ·.url))),
     ("method", .ofOption (request.map (·.method))), ("status_code", .integer response.status)]
  fault := none

/-- The record of a retry. -/
def retryRecord (p : StatusRetry) (response : Http.Response) (attempt : Int) : Log.Record where
  logger := p.logger
  level := .warning
  message := s!"Attempting retry #{attempt}"
  fields := [("attempt", .integer attempt), ("status_code", .integer response.status)]
  fault := none

/-- Decides whether a response is followed by another attempt, with a record of the failure and of
    the retry. -/
def shouldRetry (p : StatusRetry) (response : Http.Response) (request : Option Http.Request)
    (attempt : Int) : Logged Bool :=
  if isFailure response then
    if p.allows response attempt then
      ⟨true, [p.failureRecord response request, p.retryRecord response attempt]⟩
    else ⟨false, [p.failureRecord response request]⟩
  else ⟨false, []⟩

end StatusRetry

end Courier
