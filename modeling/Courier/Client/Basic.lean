import Courier.Auth.Session
import Courier.Client.Exchange
import Courier.Config.Basic
import Courier.Error
import Courier.Retry.Context
import Courier.Retry.Status
import Courier.Retry.Transport

/-!
# The client

A client holds its settings, a session and the policies built from the settings. At the start the
session has the configured credentials for every target, or those of the anonymous user. A proxy
with a user name has its own credentials, registered for the proxy alone, and an auth state without
credentials of its own.

A client is closed once and for all; closing it releases the connections of its pool.
-/

namespace Courier

/-- A proxy as the connection pool uses it: user information of the URL becomes credentials of the
    connection. -/
structure ProxyEndpoint where
  url : Url
  headers : Http.Headers
  auth : Option Credentials
  deriving DecidableEq, Repr

/-- The state of a client. -/
structure Client where
  config : Config
  logger : String
  session : Session
  transportRetry : TransportRetry
  statusRetry : StatusRetry
  redirects : RedirectPolicy
  proxy : Option ProxyEndpoint
  cookies : Http.CookieJar
  closed : Bool
  /-- How often the connections of the pool were released. -/
  releases : Nat
  deriving DecidableEq, Repr

namespace ProxyEndpoint

/-- The endpoint of a proxy URL. -/
def create [Codecs] (url : List Char) (headers : Http.Headers) :
    Except Url.Error ProxyEndpoint := do
  let url ← Url.read url
  if url.username.isEmpty && url.password.isEmpty then return ⟨url, headers, none⟩
  let credentials : Credentials := ⟨.ofList url.username, .ofList url.password⟩
  return ⟨← url.withoutUserinfo, headers, some credentials⟩

end ProxyEndpoint

namespace Client

/-- The logger of a client that was given none. -/
def loggerName : String := "preemptive.client"

/-- The credentials a client has for every target. -/
def defaultCredentials (config : Config) : Credentials :=
  match config.username with
  | none => ⟨Config.anonymousUsername, ""⟩
  | some username =>
    if username.isEmpty then ⟨Config.anonymousUsername, ""⟩
    else ⟨username, config.password.getD ""⟩

/-- Why a client cannot be built. -/
inductive CreateError where
  /-- The credentials of the proxy cannot be presented. -/
  | unencodable (error : RawText.Unencodable)
  /-- The proxy has no usable URL. -/
  | url (error : Url.Error)
  deriving DecidableEq, Repr

/-- The wording of an error. -/
def CreateError.message : CreateError → String
  | unencodable error => error.message
  | url error => error.message

/-- The session of a client without a proxy. -/
def startSession (config : Config) : Session :=
  { Session.empty with store := CredentialStore.empty.set .any (defaultCredentials config) }

/-- The credentials of a proxy with a user name. -/
def proxyCredentials (proxy : ProxyConfig) (username : RawText) : Credentials :=
  ⟨username, proxy.password.getD ""⟩

/-- The session with the credentials of a proxy registered and an auth state for it committed. -/
def seedProxy (session : Session) (proxy : ProxyConfig) (username : RawText) : Logged Session :=
  let scope := Scope.of (some proxy.host) (some proxy.port)
  let session := { session with store := session.store.set scope (proxyCredentials proxy username) }
  let (state, session) := session.newState none
  let seeded := session.cache.put scope state
  ⟨{ session with cache := seeded.value }, seeded.records⟩

/-- The session and the proxy endpoint of settings. -/
def connectProxy [Codecs] (session : Session) :
    Option ProxyConfig → Except CreateError (Logged (Session × Option ProxyEndpoint))
  | none => .ok ⟨(session, none), []⟩
  | some proxy =>
    match proxy.username with
    | none => do
      let endpoint ← (ProxyEndpoint.create proxy.url.toList .empty).mapError .url
      return ⟨(session, some endpoint), []⟩
    | some username => do
      let seeded := seedProxy session proxy username
      let value ← (proxyCredentials proxy username).basicHeader.mapError .unencodable
      let endpoint ← (ProxyEndpoint.create proxy.url.toList
        ⟨[⟨Http.FieldName.proxyAuthorization, Utf8.encode value⟩]⟩).mapError .url
      return ⟨(seeded.value, some endpoint), seeded.records⟩

/-- Builds a client; it fails when the proxy has no usable URL, or its credentials no octets. -/
def create [Codecs] (config : Config) (logger : Option String) :
    Except CreateError (Logged Client) := do
  let logger := logger.getD loggerName
  let connected ← connectProxy (startSession config) config.proxy
  let client : Client := {
    config, logger
    session := connected.value.1
    transportRetry := { maxRetries := config.retryCount, resendsSent := true, logger }
    statusRetry := { maxRetries := config.retryCount, interval := config.retryInterval, logger }
    redirects := { logger }
    proxy := connected.value.2
    cookies := .empty
    closed := false
    releases := 0 }
  return ⟨client, connected.records⟩

/-- The client with another logger, which its policies report to as well. -/
def setLogger (c : Client) (logger : String) : Client :=
  { c with
    logger
    transportRetry := { c.transportRetry with logger }
    statusRetry := { c.statusRetry with logger }
    redirects := { c.redirects with logger } }

/-- Closes the client; `fault` is what releasing the connections raises, if anything. Only the first
    time has an effect. A fault of an HTTP exchange or of the operating system is kept back, with a
    record; any other one comes out. -/
def close (c : Client) (fault : Option Fault) : Logged (Client × Option Fault) :=
  if c.closed then ⟨(c, none), []⟩
  else
    let c := { c with closed := true, releases := c.releases + 1 }
    match fault with
    | none => ⟨(c, none), []⟩
    | some fault =>
      if fault.category.isHttp || fault.category.isSystem then
        ⟨(c, none),
          [{ Log.Record.plain c.logger "Error while closing the connection pool" with
             fault := some fault }]⟩
      else ⟨(c, some fault), []⟩

/-- The header fields a client gives to the requests it builds. -/
def defaultHeaders : Http.Headers :=
  ⟨[⟨Http.FieldName.accept, Utf8.ofString "*/*"⟩,
    ⟨Http.FieldName.acceptEncoding, Utf8.ofString "gzip, deflate"⟩,
    ⟨Http.FieldName.connection, Utf8.ofString "keep-alive"⟩,
    ⟨Http.FieldName.userAgent, Utf8.ofString Config.userAgent⟩]⟩

/-- Why a client cannot build a request. -/
inductive BuildError where
  | url (error : Url.Error)
  /-- The name of a field cannot be written in the charset of the client's. -/
  | fieldName (error : Charset.Unencodable)
  /-- The host stands for no name, and the field that names it is missing. -/
  | name (error : NameError)
  /-- Cookies cannot be presented. -/
  | site (error : Http.SiteError)
  /-- The JSON body has a number that JSON has no text for. -/
  | bodyRange
  deriving DecidableEq, Repr

/-- The wording of an error. -/
def BuildError.message : BuildError → String
  | url error => error.message
  | fieldName error => error.message
  | name error => error.message
  | site error => error.message
  | bodyRange => "Out of range float values are not JSON compliant"

/-- Builds a request with the header fields of the client under those of the caller, and the cookies
    of the client at the second `now`. A URL that does not name its target is reduced to its path
    and query. -/
def buildRequest [Codecs] (c : Client) (now : Int) (method : String) (url : List Char)
    (headers : Http.Headers) (body : Http.Body) : Except BuildError Http.Request := do
  let url ← (Url.read url).mapError .url
  let url ← if url.isAbsolute then .ok url else url.rooted.mapError .url
  let headers ← (defaultHeaders.overlay headers).mapError .fieldName
  let headers ← (c.cookies.present now url headers).mapError .site
  if body.isBeyondRange then throw .bodyRange
  if !headers.contains Http.FieldName.host then let _ ← url.name.mapError .name
  return .create method url headers body

/-- The request that is sent for a caller's, with these header fields; its body has to be there. -/
def outgoing (request : Http.Request) (headers : Http.Headers) : Except Failure Http.Request :=
  if request.buffered then .ok (request.rebuild request.url headers) else .error .unread

/-- The request to send for a caller's: it names the client and presents the credentials for its
    target, unless the caller has set these fields. The state of the target is committed on the
    way. -/
def prepare [Codecs] (c : Client) (request : Http.Request) :
    Logged (Client × Except Failure Http.Request) :=
  match Scope.ofUrl request.url with
  | .error error => ⟨(c, .error (.name error)), []⟩
  | .ok target =>
    let authenticated := c.session.authenticate target
    let c := { c with session := authenticated.value.session }
    match authenticated.value.state with
    | none => ⟨(c, .error (.client (.noCredentials target))), authenticated.records⟩
    | some state =>
      let headers :=
        request.headers.setDefault ⟨Http.FieldName.userAgent, Utf8.ofString Config.userAgent⟩
      if headers.contains Http.FieldName.authorization then
        ⟨(c, outgoing request headers), authenticated.records⟩
      else
        let resolved := c.session.resolve state target
        let prepared := match resolved.value with
          | some credentials => do
            let value ← (state.scheme.header credentials).mapError .unencodable
            outgoing request (headers.set ⟨Http.FieldName.authorization, Utf8.encode value⟩)
          | none => outgoing request headers
        ⟨(c, prepared), authenticated.records ++ resolved.records⟩

end Client

end Courier
