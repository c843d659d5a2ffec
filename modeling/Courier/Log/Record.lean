import Courier.Fault.Basic
import Courier.Json.Basic

/-!
# Log records

A record is what a logger hands on: the name of the logger, a level, a message, named fields and
possibly a fault. `Logged` is a value together with the records emitted on the way to it.
-/

namespace Courier

namespace Log

/-- How urgent a record is; the named levels are ten apart. -/
structure Level where
  rank : Int
  deriving DecidableEq, Repr, Inhabited

namespace Level

def debug : Level := ⟨10⟩
def info : Level := ⟨20⟩
def warning : Level := ⟨30⟩
def error : Level := ⟨40⟩
def critical : Level := ⟨50⟩

/-- The name of a level. -/
def name (level : Level) : String :=
  if level = ⟨0⟩ then "NOTSET"
  else if level = debug then "DEBUG"
  else if level = info then "INFO"
  else if level = warning then "WARNING"
  else if level = error then "ERROR"
  else if level = critical then "CRITICAL"
  else s!"Level {level.rank}"

end Level

/-- A record as a logger hands it on. -/
structure Record where
  logger : String
  level : Level
  message : String
  fields : List (String × Json)
  fault : Option Fault
  deriving Inhabited, Repr

/-- A record at the debug level without fields. -/
def Record.plain (logger message : String) : Record := ⟨logger, .debug, message, [], none⟩

end Log

/-- A value with the records emitted on the way to it. -/
structure Logged (α : Type) where
  value : α
  records : List Log.Record

end Courier
