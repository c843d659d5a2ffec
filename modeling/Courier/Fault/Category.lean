/-!
# Categories of faults

A fault that ends a send is raised by the transport, by the TLS layer or by anything below them.
`Category` is the tree of these: the faults of an HTTP exchange with their subdivisions, the TLS
faults, the faults of the operating system, and any other by its name. The predicates at the end are
the branches of the tree that decisions rest on.
-/

namespace Courier.Fault

/-- What a time limit was set on. -/
inductive Wait where
  | connect
  | read
  | write
  | pool
  deriving DecidableEq, Repr

/-- What a connection was used for when it failed. -/
inductive Use where
  | connect
  | read
  | write
  | close
  deriving DecidableEq, Repr

/-- The side that broke the protocol. -/
inductive Side where
  | near
  | far
  deriving DecidableEq, Repr

/-- The kinds of TLS fault. -/
inductive Tls where
  | general
  | certificate
  | zeroReturn
  | endOfFile
  | systemCall
  | wantRead
  | wantWrite
  deriving DecidableEq, Repr

/-- What a fault is. A subdivision that is missing stands for the branch as a whole. -/
inductive Category where
  | http
  | request
  | transport
  | timeout (wait : Option Wait)
  | network (use : Option Use)
  | protocol (side : Option Side)
  | proxy
  | unsupportedProtocol
  | decoding
  | redirection
  | badUrl
  | cookieConflict
  | stream
  | tls (kind : Tls)
  | system (name : String)
  | other (name : String)
  deriving DecidableEq, Repr, Inhabited

namespace Category

/-- The faults of an HTTP exchange by their names. -/
def exchangeNames : List (String × Category) :=
  [("HTTPError", http), ("RequestError", request), ("TransportError", transport),
   ("TimeoutException", timeout none), ("ConnectTimeout", timeout (some .connect)),
   ("ReadTimeout", timeout (some .read)), ("WriteTimeout", timeout (some .write)),
   ("PoolTimeout", timeout (some .pool)), ("NetworkError", network none),
   ("ConnectError", network (some .connect)), ("ReadError", network (some .read)),
   ("WriteError", network (some .write)), ("CloseError", network (some .close)),
   ("ProtocolError", protocol none), ("LocalProtocolError", protocol (some .near)),
   ("RemoteProtocolError", protocol (some .far)), ("ProxyError", proxy),
   ("UnsupportedProtocol", unsupportedProtocol), ("DecodingError", decoding),
   ("TooManyRedirects", redirection), ("InvalidURL", badUrl), ("CookieConflict", cookieConflict),
   ("StreamError", stream)]

/-- The TLS faults by their names; the certificate fault has two. -/
def tlsNames : List (String × Tls) :=
  [("SSLError", .general), ("SSLCertVerificationError", .certificate),
   ("CertificateError", .certificate), ("SSLZeroReturnError", .zeroReturn),
   ("SSLEOFError", .endOfFile), ("SSLSyscallError", .systemCall),
   ("SSLWantReadError", .wantRead), ("SSLWantWriteError", .wantWrite)]

/-- The names of the faults of the operating system. -/
def systemNames : List String :=
  ["OSError", "BlockingIOError", "ChildProcessError", "ConnectionError", "BrokenPipeError",
   "ConnectionAbortedError", "ConnectionRefusedError", "ConnectionResetError", "FileExistsError",
   "FileNotFoundError", "InterruptedError", "IsADirectoryError", "NotADirectoryError",
   "PermissionError", "ProcessLookupError", "TimeoutError", "gaierror", "herror"]

/-- Other names of faults of the operating system. -/
def systemAliases : List (String × String) :=
  [("IOError", "OSError"), ("EnvironmentError", "OSError"), ("socket_error", "OSError"),
   ("error", "OSError"), ("timeout", "TimeoutError")]

/-- The category of a name. -/
def ofName (name : String) : Category :=
  match exchangeNames.lookup name, tlsNames.lookup name with
  | some category, _ => category
  | none, some kind => tls kind
  | none, none =>
    let name := (systemAliases.lookup name).getD name
    if systemNames.contains name then system name else other name

/-- The name of a category. -/
def name (category : Category) : String :=
  match category with
  | tls kind => ((tlsNames.find? (·.2 == kind)).map (·.1)).getD ""
  | system name => name
  | other name => name
  | category => ((exchangeNames.find? (·.2 == category)).map (·.1)).getD ""

/-- The name of a category with that of the layer it belongs to, as a report shows it. -/
def qualifiedName (category : Category) : String :=
  match category with
  | tls _ => "ssl." ++ category.name
  | system name => if name == "gaierror" || name == "herror" then "socket." ++ name else name
  | other name => name
  | category => "httpx." ++ category.name

/-- Whether a fault belongs to the transport, so that a send that ends with it has failed. -/
def isTransport : Category → Bool
  | transport | timeout _ | network _ | protocol _ | proxy | unsupportedProtocol => true
  | _ => false

/-- Whether a fault belongs to an HTTP exchange. -/
def isHttp (category : Category) : Bool :=
  match category with
  | http | request | decoding | redirection => true
  | category => category.isTransport

/-- Whether a fault belongs to the TLS layer. -/
def isTls : Category → Bool
  | tls _ => true
  | _ => false

/-- Whether the message of a fault is a key that is missing somewhere. -/
def namesKey (category : Category) : Bool := category == other "KeyError"

/-- Whether a fault says that there is nothing more to read. -/
def endsReading (category : Category) : Bool := category == other "StopIteration"

/-- Whether a fault is one of syntax. -/
def isSyntax (category : Category) : Bool :=
  category == other "SyntaxError" || category == other "IndentationError"
    || category == other "TabError"

/-- Whether a fault belongs to the operating system, which the TLS layer's do too. -/
def isSystem : Category → Bool
  | tls _ | system _ => true
  | _ => false

/-- Whether a time limit was exceeded. -/
def isTimeout : Category → Bool
  | timeout _ => true
  | _ => false

/-- Whether the connection failed or the far side broke the protocol. -/
def isConnectionLoss : Category → Bool
  | network _ | protocol (some .far) => true
  | _ => false

/-- Whether the fault comes before anything of a request can have been sent: no connection was
    obtained. -/
def precedesSending : Category → Bool
  | network (some .connect) | timeout (some .connect) | timeout (some .pool) => true
  | _ => false

end Category

end Courier.Fault
