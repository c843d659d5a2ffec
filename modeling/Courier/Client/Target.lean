import Courier.Http.CookieJar
import Courier.Http.Response
import Courier.Redirect
import Courier.Url.Port

/-!
# The target of an answer

Every redirect that the transport answers with is taken as far as the request for its target,
whether it is followed or not. The location is completed from the URL of the request, the method
becomes GET where it is usual, and the credentials are kept for the same target only, or for its
secure form. A location that is no URL makes the exchange fail like a broken connection. Servers are
compared by the names of their hosts, so each of the two hosts has to stand for one.
-/

namespace Courier

namespace Exchange

/-- Why an exchange gave no response. -/
inductive Error where
  | fault (fault : Fault)
  | url (error : Url.Error)
  /-- A host stands for no name. -/
  | name (error : NameError)
  /-- Cookies cannot be exchanged. -/
  | site (error : Http.SiteError)
  deriving DecidableEq, Repr

/-- The fault of a location that is no URL. -/
def badLocation (error : Url.Error) : Fault where
  entry :=
    ⟨.protocol (some .far), s!"Invalid URL in location header: {error.message}.", none, some 1⟩
  others := [⟨.badUrl, error.message, none, none⟩]

variable [Codecs]

/-- The URL with the host of another one, if it has a scheme and no host. -/
def lendHost (origin url : Url) : Except Error Url :=
  if url.scheme.isEmpty then .ok url
  else do
    let name ← url.name.mapError .name
    if name.isEmpty then (url.withHost (← origin.name.mapError .name)).mapError .url else .ok url

/-- The URL itself if it is absolute, or what it is joined to. -/
def joinRelative (origin url : Url) : Except Error Url :=
  if url.isAbsolute then .ok url else (origin.join url).mapError .url

/-- Completes the location of a redirect from the URL of the request. -/
def completeLocation (origin : Url) (location : List Char) : Except Error Url := do
  let url ← (Url.read location).mapError (Error.fault ∘ badLocation)
  let url ← lendHost origin url
  let url ← joinRelative origin url
  (Redirect.inheritFragment origin url).mapError .url

/-- The port of a URL, or the one that its scheme stands for on the web. -/
def webPort (url : Url) : Option Int :=
  url.port <|> if url.scheme = ['h', 't', 't', 'p'] then some 80
    else if url.scheme = ['h', 't', 't', 'p', 's'] then some 443
    else none

/-- Refuses a target if its host stands for no name, or that of the request does not. -/
def checkNames (origin url : Url) : Except NameError Unit := do
  if url.scheme = origin.scheme then
    let _ ← url.name
    let _ ← origin.name
  else
    let _ ← origin.name
    let _ ← url.name

/-- Whether two URLs whose hosts stand for names lead to the same server in the same way. -/
def sameServer (a b : Url) : Bool :=
  a.scheme == b.scheme && a.hostName == b.hostName && webPort a == webPort b

/-- Whether a URL is the secure form of another one, each at the usual port. -/
def isSecured (origin url : Url) : Bool :=
  origin.hostName == url.hostName && origin.scheme == ['h', 't', 't', 'p'] &&
    webPort origin == some 80
    && url.scheme == ['h', 't', 't', 'p', 's'] && webPort url == some 443

/-- The method of the request for the target of a redirect. -/
def targetMethod (method : String) (status : Int) : String :=
  if (status = 302 ∨ status = 303) ∧ method ≠ "HEAD" then "GET"
  else if status = 301 ∧ method = "POST" then "GET"
  else method

/-- The fields of the request for the target of a redirect. -/
def targetFields (request : Http.Request) (url : Url) (status : Int) : Http.Headers :=
  let headers := request.headers
  let headers :=
    if sameServer request.url url then headers
    else
      let headers :=
        if isSecured request.url url then headers else headers.erase Http.FieldName.authorization
      headers.set ⟨Http.FieldName.host, Utf8.encode url.hostPort⟩
  let headers :=
    if targetMethod request.method status = "GET" ∧ request.method ≠ "GET" then
      (headers.erase Http.FieldName.contentLength).erase Http.FieldName.transferEncoding
    else headers
  headers.erase Http.FieldName.cookie

/-- Takes a response as far as the request for its target, if it is a redirect with one, and
    presents cookies there; the outcome is not used. -/
def checkRedirect (now : Int) (cookies : Http.CookieJar) (request : Http.Request)
    (response : Http.Response) : Except Error Unit :=
  if Redirect.statuses.contains response.status then
    match response.headers.get? Http.FieldName.location with
    | some location => do
      let url ← completeLocation request.url location
      (checkNames request.url url).mapError .name
      let presented := cookies.present now url (targetFields request url response.status)
      (presented.mapError .site).map fun _ => ()
    | none => .ok ()
  else .ok ()

end Exchange

end Courier
