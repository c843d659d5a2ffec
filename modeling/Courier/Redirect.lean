import Courier.Http.Response
import Courier.Log.Record
import Courier.Url.Join
import Courier.Url.Name

/-!
# Redirects

Redirects are followed for the methods GET, POST, HEAD, DELETE and PUT, and for every method after a
303. The follow-up keeps the method, the header fields and the body of the request; its URL is the
location resolved against that of the request, with the fragment of the request unless the location
has one, and its host field is made anew, for which the host has to stand for a name.
-/

namespace Courier

/-- When a redirect is followed is fixed; the policy holds the logger it reports to. -/
structure RedirectPolicy where
  logger : String
  deriving DecidableEq, Repr, Inhabited

namespace Redirect

/-- The methods whose redirects are followed, in lower case. -/
def methods : List String := ["get", "post", "head", "delete", "put"]

/-- The statuses of redirects. -/
def statuses : List Int := [301, 302, 303, 307, 308]

/-- Why a redirect has no target. -/
inductive Error where
  | noLocation
  | url (error : Url.Error)
  /-- The host of the target stands for no name. -/
  | name (error : NameError)
  deriving DecidableEq, Repr

/-- Whether redirects of a method, in any case, are followed. -/
def followsMethod (method : String) : Bool := methods.contains (Text.lower method)

/-- Whether a response is a redirect with a location. -/
def hasTarget (response : Http.Response) : Bool :=
  statuses.contains response.status && response.headers.contains Http.FieldName.location

/-- Whether a response to a request with this method is a redirect to follow. -/
def follows (method : String) (response : Http.Response) : Bool :=
  hasTarget response && (response.status == 303 || followsMethod method)

/-- The URL with a fragment handed on, unless it has one of its own or there is none to hand on. -/
def inheritFragment (origin url : Url) : Except Url.Error Url :=
  if !origin.fragmentText.isEmpty && url.fragmentText.isEmpty then
    url.withFragment origin.fragmentText
  else .ok url

/-- The target of a redirect: the location resolved against the URL of the request. -/
def target [Codecs] (origin : Url) (headers : Http.Headers) : Except Error Url :=
  match headers.get? Http.FieldName.location with
  | none => .error .noLocation
  | some location =>
    (do inheritFragment origin (← origin.join (← Url.read location))).mapError .url

/-- The URL, if its host stands for a name. -/
def named [Codecs] (url : Url) : Except Error Url := (url.name.mapError .name).map fun _ => url

/-- The request that follows a redirect to a URL. -/
def followUp (request : Http.Request) (url : Url) : Http.Request :=
  request.rebuild url (request.headers.erase Http.FieldName.host)

end Redirect

namespace RedirectPolicy

/-- The logger of a policy that was given none. -/
def loggerName : String := "preemptive.redirect"

/-- Decides whether redirects of a method are followed. -/
def isRedirectable (p : RedirectPolicy) (method : String) : Logged Bool :=
  if Redirect.followsMethod method then
    ⟨true, [.plain p.logger s!"The method {method} can be redirected."]⟩
  else
    ⟨false, [{
      logger := p.logger, level := .error, message := s!"The method {method} cannot be redirected."
      fields := [("method", .string method)], fault := none }]⟩

/-- Decides whether a response is a redirect to follow. -/
def isRedirected (p : RedirectPolicy) (request : Http.Request) (response : Http.Response) :
    Logged Bool :=
  if !Redirect.statuses.contains response.status then ⟨false, []⟩
  else if !response.headers.contains Http.FieldName.location then
    ⟨false,
      [.plain p.logger
        s!"Received redirect response {response.status} without a Location header"]⟩
  else if response.status == 303 then ⟨true, []⟩
  else p.isRedirectable request.method

/-- Builds the request that follows a redirect. -/
def followUp [Codecs] (p : RedirectPolicy) (request : Http.Request) (response : Http.Response) :
    Logged (Except Redirect.Error Http.Request) :=
  match Redirect.target request.url response.headers with
  | .error error => ⟨.error error, []⟩
  | .ok url =>
    ⟨(Redirect.named url).map (Redirect.followUp request),
      [{ logger := p.logger, level := .debug, message := s!"Redirecting to {url}"
         fields := [("url", .string (toString url))], fault := none }]⟩

end RedirectPolicy

end Courier
