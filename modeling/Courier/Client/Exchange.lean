import Courier.Auth.Credentials
import Courier.Client.Target

/-!
# One exchange with the transport

What happens to a request on its way to the transport, and to what the transport gives back. A URL
with user information authenticates the request on the wire. Of an answer, its cookies and the
target of a redirect are looked at before the body is read and decoded.
-/

namespace Courier

/-- What the transport gives for a request. -/
inductive Outcome where
  | answer (response : Http.Response)
  | fault (fault : Fault)
  deriving Repr, Inhabited

namespace Exchange

/-- What a send gives, and the cookies after it. -/
structure Sent where
  given : Except Error Http.Response
  cookies : Http.CookieJar

/-- The field that presents a user name and a password. -/
def basicField (username password : List Char) : Http.Field :=
  ⟨Http.FieldName.authorization,
    Utf8.encode (Credentials.basicValue (Utf8.encode (username ++ ':' :: password)))⟩

/-- The request as it reaches the transport. -/
def onWire (request : Http.Request) : Http.Request :=
  let username := request.url.username
  let password := request.url.password
  if username.isEmpty && password.isEmpty then request
  else { request with headers := request.headers.set (basicField username password) }

/-- The fault that the reading of a body ends with. One that says that there is nothing more cannot
    leave the reading and becomes another one. -/
def readingFault (fault : Fault) : Fault :=
  if fault.category.endsReading then
    .single (.other "RuntimeError") "generator raised StopIteration"
  else fault

/-- The response whose head has been looked at, once its body is read. -/
def readBody [Codecs] (response : Http.Response) : Except Error Http.Response :=
  match response.bodyFault with
  | some fault => .error (.fault (readingFault fault))
  | none => response.decoded.mapError .fault

/-- What the transport's outcome gives for a request on the wire, at the second `now`. -/
def complete [Codecs] (now : Int) (cookies : Http.CookieJar) (request : Http.Request) :
    Outcome → Sent
  | .fault fault => ⟨.error (.fault fault), cookies⟩
  | .answer response =>
    match Http.Site.ofRequest request.url request.headers with
    | .error error => ⟨.error (.site error), cookies⟩
    | .ok site =>
      let (cookies, received) :=
        cookies.receive now site (response.headers.getAll Http.FieldName.setCookie)
      let given := do
        received.mapError .site
        checkRedirect now cookies request response
        readBody response
      ⟨given, cookies⟩

/-- What every send of a call gives, by its number, the cookies before it and the request on the
    wire. -/
abbrev Script := Nat → Http.CookieJar → Http.Request → Sent

/-- The sends at the second `now` over a transport whose outcomes are given by their number. -/
def Script.ofOutcomes [Codecs] (now : Int) (outcome : Nat → Outcome) : Script :=
  fun n cookies request => complete now cookies request (outcome n)

end Exchange

end Courier
