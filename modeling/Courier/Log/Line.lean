import Courier.Fault.Basic
import Courier.Json.Print
import Courier.Log.Template
import Courier.Log.Timestamp

/-!
# Records as lines of JSON

A record is written as one JSON object on one line. First come its own members, from the timestamp
to the thread, then the report of its fault if it has one, and then its extra attributes in their
order. An attribute with one of the names a record has for itself is left out; one that is named
like an earlier member replaces its value there.

Attributes may hold any value. `Entry.set` gives a record one more, or replaces one that it has for
itself.
-/

namespace Courier.Log

/-- What a record has in the place of a fault. -/
inductive Attachment where
  | fault (fault : Fault)
  /-- The record says that it has a fault and names none. -/
  | unnamed
  | value (value : Json)
  deriving Repr

/-- A record as it reaches the formatter, with all it knows about where it comes from. -/
structure Entry where
  time : Json
  milliseconds : Json
  levelName : Json
  logger : Json
  template : Json
  arguments : Arguments
  module : Json
  function : Json
  line : Json
  thread : Json
  attachment : Option Attachment
  extras : List (String × Json)
  deriving Repr

/-- The record with an attribute, in the place of an earlier one of its name. A fault that counts as
    nothing is none, and arguments are one value. -/
def Entry.set (e : Entry) (key : String) (value : Json) : Entry :=
  match key with
  | "created" => { e with time := value }
  | "msecs" => { e with milliseconds := value }
  | "levelname" => { e with levelName := value }
  | "name" => { e with logger := value }
  | "msg" => { e with template := value }
  | "args" => { e with arguments := .value value }
  | "module" => { e with module := value }
  | "funcName" => { e with function := value }
  | "lineno" => { e with line := value }
  | "threadName" => { e with thread := value }
  | "exc_info" => { e with attachment := if value.isVoid then none else some (.value value) }
  | _ => { e with extras := Json.setMember e.extras key value }

/-- The names of attributes that are not written as extras. -/
def reservedNames : List String :=
  ["name", "msg", "args", "created", "msecs", "levelname", "levelno", "pathname", "filename",
   "module", "exc_info", "exc_text", "stack_info", "lineno", "funcName", "sinfo",
   "relativeCreated", "thread", "threadName", "processName", "process", "message", "taskName"]

/-- Why a value in the place of a fault has no report: it should be a sequence of a type, a fault
    and its trace. -/
inductive AttachmentError where
  /-- The value is of this kind and has no parts. -/
  | noParts (kind : String)
  /-- The value has parts, but by key and not by this position. -/
  | noPosition (position : Nat)
  /-- The sequence, which is described by a word, has too few parts. -/
  | tooShort (word : String)
  /-- A part is of this kind and lacks what a trace or a fault has under this name. -/
  | lacks (kind name : String)
  deriving DecidableEq, Repr

/-- The wording of an error. -/
def AttachmentError.message : AttachmentError → String
  | noParts kind => s!"'{kind}' object is not subscriptable"
  | noPosition position => toString position
  | tooShort word => s!"{word}index out of range"
  | lacks kind name => s!"'{kind}' object has no attribute '{name}'"

/-- Why a record cannot be written. -/
inductive LineError where
  | timestamp (error : TimestampError)
  | template (error : TemplateError)
  | attachment (error : AttachmentError)
  deriving DecidableEq, Repr

/-- The wording of an error. -/
def LineError.message : LineError → String
  | timestamp error => error.message
  | template error => error.message
  | attachment error => error.message

/-- The report of a fault that is not named. -/
def unnamedReport : String := "NoneType: None"

/-- The report of a value that stands in the place of a fault. -/
def valueReport (value : Json) : Except AttachmentError String :=
  match value with
  | .array (_ :: .null :: .null :: _) => .ok unnamedReport
  | .array (_ :: raised :: .null :: _) => .error (.lacks (kindWord raised) "__suppress_context__")
  | .array (_ :: _ :: trace :: _) => .error (.lacks (kindWord trace) "tb_frame")
  | .array _ => .error (.tooShort "list ")
  | .string s =>
    .error (if s.length < 3 then .tooShort "string " else .lacks "str" "tb_frame")
  | .object _ => .error (.noPosition 2)
  | value => .error (.noParts (kindWord value))

/-- The report of what a record has in the place of a fault. -/
def Attachment.report : Attachment → Except AttachmentError String
  | fault raised => .ok raised.report
  | unnamed => .ok unnamedReport
  | value other => valueReport other

/-- The members a record has for itself. -/
def Entry.ownMembers (e : Entry) : Except LineError (List (String × Json)) := do
  let timestamp ← (timestamp e.time e.milliseconds).mapError .timestamp
  let message ← (fill (shown e.template) e.arguments).mapError .template
  return [("timestamp", .string timestamp), ("level", e.levelName), ("logger", e.logger),
    ("message", .string message), ("module", e.module), ("function", e.function),
    ("line", e.line), ("thread", e.thread)]

/-- The member that holds the report of the fault. -/
def Entry.faultMembers (e : Entry) : Except LineError (List (String × Json)) :=
  match e.attachment with
  | some attachment =>
    (attachment.report.mapError .attachment).map fun report => [("exception", .string report)]
  | none => .ok []

/-- The extra attributes that are written. -/
def Entry.writtenExtras (e : Entry) : List (String × Json) :=
  e.extras.filter fun extra => !reservedNames.contains extra.1

/-- The members of the object a record is written as. -/
def Entry.members (e : Entry) : Except LineError (List (String × Json)) := do
  let own ← e.ownMembers
  let fault ← e.faultMembers
  return e.writtenExtras.foldl (fun members extra => Json.setMember members extra.1 extra.2)
    (own ++ fault)

/-- The line of a record. -/
def Entry.text (e : Entry) : Except LineError (List Char) := do
  return (Json.object (← e.members)).text .line

end Courier.Log
