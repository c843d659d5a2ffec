import Courier.Codecs
import Courier.Fault.Basic
import Courier.Http.Headers
import Courier.Http.Request
import Courier.Text.Integer
import Courier.Url.Host

/-!
# Responses

The body of a response may be coded, by codings that its fields name. Reading the body undoes those
that are known, the one applied last first.
-/

namespace Courier.Http

/-- The standard reason phrases. -/
def reasonPhrases : List (Int × String) :=
  [(100, "Continue"), (101, "Switching Protocols"), (102, "Processing"), (103, "Early Hints"),
   (200, "OK"), (201, "Created"), (202, "Accepted"), (203, "Non-Authoritative Information"),
   (204, "No Content"), (205, "Reset Content"), (206, "Partial Content"), (207, "Multi-Status"),
   (208, "Already Reported"), (226, "IM Used"), (300, "Multiple Choices"),
   (301, "Moved Permanently"), (302, "Found"), (303, "See Other"), (304, "Not Modified"),
   (305, "Use Proxy"), (307, "Temporary Redirect"), (308, "Permanent Redirect"),
   (400, "Bad Request"), (401, "Unauthorized"), (402, "Payment Required"), (403, "Forbidden"),
   (404, "Not Found"), (405, "Method Not Allowed"), (406, "Not Acceptable"),
   (407, "Proxy Authentication Required"), (408, "Request Timeout"), (409, "Conflict"),
   (410, "Gone"), (411, "Length Required"), (412, "Precondition Failed"),
   (413, "Request Entity Too Large"), (414, "Request-URI Too Long"),
   (415, "Unsupported Media Type"), (416, "Requested Range Not Satisfiable"),
   (417, "Expectation Failed"), (418, "I'm a teapot"), (421, "Misdirected Request"),
   (422, "Unprocessable Entity"), (423, "Locked"), (424, "Failed Dependency"), (425, "Too Early"),
   (426, "Upgrade Required"), (428, "Precondition Required"), (429, "Too Many Requests"),
   (431, "Request Header Fields Too Large"), (451, "Unavailable For Legal Reasons"),
   (500, "Internal Server Error"), (501, "Not Implemented"), (502, "Bad Gateway"),
   (503, "Service Unavailable"), (504, "Gateway Timeout"), (505, "HTTP Version Not Supported"),
   (506, "Variant Also Negotiates"), (507, "Insufficient Storage"), (508, "Loop Detected"),
   (510, "Not Extended"), (511, "Network Authentication Required")]

/-- A response. Reading its body may fail, at once with a fault or because the content is not coded
    as the fields say. -/
structure Response where
  status : Int
  headers : Headers
  content : Octets
  reason : String
  bodyFault : Option Fault
  deriving Repr, Inhabited

namespace Response

/-- The reason phrase of a response: the one it was given, in which only ASCII counts, or the
    standard one of its status. -/
def reasonFor (status : Int) : Option Octets → String
  | some given => String.ofList ((given.filter (· < 0x80)).map fun b => Char.ofNat b.toNat)
  | none => (reasonPhrases.lookup status).getD ""

/-- Builds a response. A body that is not empty has its length in the header fields. -/
def create (status : Int) (headers : Headers) (content : Octets) (reason : Option Octets)
    (bodyFault : Option Fault) : Response where
  status := status
  headers := if content.isEmpty then headers else headers.setDefault (lengthField content)
  content := content
  reason := reasonFor status reason
  bodyFault := bodyFault

/-- The content codings of a response, in the order in which they were applied. -/
def codings (r : Response) : List (List Char) :=
  (r.headers.getAll FieldName.contentEncoding).flatMap fun value =>
    (Url.Host.splitOn ',' value).map fun coding => Headers.lowerName (Text.strip coding)

/-- The response with its content decoded; a coding that is not known is passed over. -/
def decoded [Codecs] (r : Response) : Except Fault Response := do
  let decoders := (r.codings.filterMap Codecs.decoder?).reverse
  let content ← decoders.foldlM (fun content decode => decode content) r.content
  return { r with content }

end Response

end Courier.Http
