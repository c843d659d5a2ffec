import Courier.Auth.Scope
import Courier.Fault.Basic
import Courier.Http.Site
import Courier.Number
import Courier.Redirect
import Courier.Text.Raw

/-!
# How calls fail

`ClientError` are the errors a caller of the client is told to expect: no credentials for a target,
a failed send that is not retried any further, and too many redirects. `Failure` is everything a
call can end with instead of a response; besides the expected errors there are a closed client, a
fault that is not one of the transport, a URL that cannot be used, a host that stands for no name,
credentials that cannot be presented, cookies that cannot be exchanged, and a body that has not been
read.
-/

namespace Courier

/-- A failed send that is not retried any further. -/
structure TransportError where
  method : String
  url : String
  message : String
  kind : Fault.Kind
  attempts : Int
  cause : Option Fault
  deriving DecidableEq, Repr

/-- The errors a caller is told to expect. -/
inductive ClientError where
  | general (message : String)
  | auth (message : String) (scope : Option Scope)
  | transport (error : TransportError)
  | tooManyRedirects (message : String) (limit : Number)
  deriving DecidableEq, Repr

namespace ClientError

/-- The wording of an error. -/
def message : ClientError → String
  | general message => message
  | auth message _ => message
  | transport error => error.message
  | tooManyRedirects message _ => message

/-- The error of a target without credentials. -/
def noCredentials (target : Scope) : ClientError :=
  auth "No credentials for preemptive authentication" (some target)

/-- The error of a send that failed for good, after this many sends. -/
def failedSend (request : Http.Request) (fault : Fault) (sends : Int) : ClientError :=
  transport {
    method := request.method
    url := toString request.url
    message :=
      s!"{request.method} request to {request.url} failed after {sends} attempts: {fault.text}"
    kind := fault.kind
    attempts := sends
    cause := some fault }

/-- The error of a call that would follow more redirects than the limit. -/
def redirectLimit (limit : Number) : ClientError :=
  tooManyRedirects s!"Exceeded maximum of {limit} redirects" limit

end ClientError

/-- What a call ends with instead of a response. -/
inductive Failure where
  | client (error : ClientError)
  | closed
  /-- The transport raised a fault that is not one of the transport. -/
  | fault (raised : Fault)
  | url (error : Url.Error)
  /-- The host of a request, or of the target of a redirect, stands for no name. -/
  | name (error : NameError)
  /-- Credentials cannot be presented, as they have no octets. -/
  | unencodable (error : RawText.Unencodable)
  /-- Cookies cannot be exchanged with the site of an answered request, or of its redirect. -/
  | site (error : Http.SiteError)
  /-- A request was to be sent whose body has not been read. -/
  | unread
  | noLocation
  /-- The call is still going on after as many sends as it was given. -/
  | unfinished
  deriving DecidableEq, Repr

/-- The wording of a failure. -/
def Failure.message : Failure → String
  | client error => error.message
  | closed => "Cannot send a request, as the client has been closed"
  | fault raised => raised.text
  | url error => error.message
  | name error => error.message
  | unencodable error => error.message
  | site error => error.message
  | unread =>
    "Attempted to access streaming request content, without having called \x60read()\x60."
  | noLocation => "'Location'"
  | unfinished => "the call is still going on"

/-- The failure of a redirect without a target. -/
def Failure.ofRedirect : Redirect.Error → Failure
  | .noLocation => noLocation
  | .url error => url error
  | .name error => name error

end Courier
