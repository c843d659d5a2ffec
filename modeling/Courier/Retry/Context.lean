import Courier.Number

/-!
# Counting within a call

A call counts its attempts, its sends and the redirects it followed. A retry is a new attempt
whatever the reason for it, and following a redirect is none.
-/

namespace Courier

/-- The counters of a call. -/
structure RetryContext where
  maxRetries : Number
  attempt : Int
  sends : Int
  redirects : Int
  deriving DecidableEq, Repr, Inhabited

namespace RetryContext

/-- The counters at the start of a call. -/
def start (maxRetries : Number) : RetryContext := ⟨maxRetries, 1, 0, 0⟩

/-- The counters of the next attempt. -/
def nextAttempt (c : RetryContext) : RetryContext := { c with attempt := c.attempt + 1 }

/-- The counters after one more send. -/
def countSend (c : RetryContext) : RetryContext := { c with sends := c.sends + 1 }

/-- The counters after one more redirect. -/
def countRedirect (c : RetryContext) : RetryContext := { c with redirects := c.redirects + 1 }

/-- Whether two sets of counters are the same by value. -/
def same (a b : RetryContext) : Bool :=
  a.maxRetries.same b.maxRetries && a.attempt == b.attempt && a.sends == b.sends
    && a.redirects == b.redirects

/-- The text that shows counters. -/
def shown (c : RetryContext) : String :=
  s!"RetryContext(max_retries={c.maxRetries}, attempt={c.attempt}, sends={c.sends}, "
    ++ s!"redirects={c.redirects})"

end RetryContext

end Courier
