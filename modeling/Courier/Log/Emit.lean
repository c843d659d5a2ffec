import Courier.Log.Record
import Courier.Text.Quoted

/-!
# Emitting records with fields

A logger emits the records that reach its threshold. The fields of an emitted record may not take
the names a record has for itself, and no fields at all may be named like the three things every
call gives: the logger, the level and the message.
-/

namespace Courier.Log

/-- The names of what every call gives. -/
def parameterNames : List String := ["logger", "level", "message"]

/-- The names a record has for itself. -/
def recordNames : List String :=
  ["name", "msg", "args", "levelname", "levelno", "pathname", "filename", "module", "exc_info",
   "exc_text", "stack_info", "lineno", "funcName", "created", "msecs", "relativeCreated", "thread",
   "threadName", "processName", "process", "message", "asctime"]

/-- Why a record with fields is refused. -/
inductive EmitError where
  | parameterName (key : String)
  | recordName (key : String)
  deriving DecidableEq, Repr

/-- The wording of an error. -/
def EmitError.message : EmitError → String
  | parameterName key => s!"log_structured() got multiple values for argument '{key}'"
  | recordName key =>
    Text.quotedString s!"Attempt to overwrite {Text.quotedString key} in LogRecord"

/-- The threshold of a logger: a logger without one takes that of the root, which is the warning
    level. -/
def effectiveThreshold (threshold : Level) : Level :=
  if threshold = ⟨0⟩ then .warning else threshold

/-- Whether a logger with this threshold emits records of a level. -/
def isEnabled (threshold level : Level) : Bool :=
  0 < level.rank && (effectiveThreshold threshold).rank ≤ level.rank

/-- The record of a message with fields, if it reaches the threshold. -/
def emit (threshold : Level) (logger : String) (level : Level) (message : String)
    (fields : List (String × Json)) : Except EmitError (Option Record) :=
  match fields.find? (parameterNames.contains ·.1) with
  | some (key, _) => .error (.parameterName key)
  | none =>
    if isEnabled threshold level then
      match fields.find? (recordNames.contains ·.1) with
      | some (key, _) => .error (.recordName key)
      | none => .ok (some { logger, level, message, fields, fault := none })
    else .ok none

end Courier.Log
