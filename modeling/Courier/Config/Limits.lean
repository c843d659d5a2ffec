import Courier.Number

/-!
# Limits of settings

What a setting has to satisfy. Every check compares by value, so a NaN passes each check that looks
for a number that is too small, and fails the one that looks for a port within its range.
-/

namespace Courier.Config

/-- Why settings are refused. -/
inductive Error where
  | timeout (given : Number)
  | retryInterval (given : Number)
  | maxRedirects (given : Number)
  | port (given : Number)
  | emptyProxyHost
  deriving DecidableEq, Repr

/-- The wording of an error. -/
def Error.message : Error → String
  | timeout given => s!"timeout must be > 0, got {given}"
  | retryInterval given => s!"retry_interval must be >= 0, got {given}"
  | maxRedirects given => s!"max_redirects must be >= 0, got {given}"
  | port given => s!"port must be in [1, 65535], got {given}"
  | emptyProxyHost => "proxy host must not be empty"

/-- Refuses a timeout that is zero or less. -/
def checkTimeout (timeout : Number) : Except Error Unit :=
  if timeout.atMost 0 then .error (.timeout timeout) else .ok ()

/-- Refuses a retry interval below zero. -/
def checkRetryInterval (interval : Number) : Except Error Unit :=
  if interval.less 0 then .error (.retryInterval interval) else .ok ()

/-- Refuses a number of redirects below zero. -/
def checkMaxRedirects (count : Number) : Except Error Unit :=
  if count.less 0 then .error (.maxRedirects count) else .ok ()

/-- Refuses a port that is not from 1 to 65535. -/
def checkPort (port : Number) : Except Error Unit :=
  if Number.less 0 port && port.atMost 65535 then .ok () else .error (.port port)

end Courier.Config
