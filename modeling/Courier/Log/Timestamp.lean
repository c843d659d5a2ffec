import Courier.Log.Display
import Courier.Number.Calendar
import Courier.Text.Integer

/-!
# Timestamps

The time of a record is a number of seconds since the start of 1970 in UTC, and its milliseconds are
given apart, as a number or as a text of an integer. The timestamp is the date and the time of day
of the second that has begun, a point, at least three places for the integer part of the
milliseconds, and the letter for UTC.
-/

namespace Courier.Log

/-- A number in at least two digits. -/
def twoDigits (n : Nat) : String := if n < 10 then s!"0{n}" else toString n

/-- The date and the time of day at a second. -/
def dateTime (second : Int) : String :=
  let date := Date.ofDays (second.fdiv 86400)
  let rest := (second.fmod 86400).toNat
  s!"{date.year}-{twoDigits date.month}-{twoDigits date.day}"
    ++ s!"T{twoDigits (rest / 3600)}:{twoDigits (rest / 60 % 60)}:{twoDigits (rest % 60)}"

/-- An integer in at least three places, of which a sign takes one. -/
def threePlaces (n : Int) : String :=
  let digits := toString n.natAbs
  if n < 0 then "-" ++ (if digits.length < 2 then "0" ++ digits else digits)
  else "".pushn '0' (3 - digits.length) ++ digits

/-- Why a time has no timestamp. -/
inductive TimestampError where
  /-- The time is of this kind and no number. -/
  | noTime (kind : String)
  | notANumber
  | beyondClock
  | beyondCalendar
  | beyondYears
  /-- The milliseconds are of this kind and neither a number nor a text of one. -/
  | noMilliseconds (kind : String)
  | millisecondsText (text : String)
  | millisecondsNotANumber
  | millisecondsInfinite
  deriving DecidableEq, Repr

/-- The wording of an error. -/
def TimestampError.message : TimestampError → String
  | noTime kind => s!"'{kind}' object cannot be interpreted as an integer"
  | notANumber => "Invalid value NaN (not a number)"
  | beyondClock => "timestamp out of range for platform time_t"
  | beyondCalendar => "[Errno 75] Value too large for defined data type"
  | beyondYears => "signed integer is greater than maximum"
  | noMilliseconds kind =>
    s!"int() argument must be a string, a bytes-like object or a real number, not '{kind}'"
  | millisecondsText text =>
    s!"invalid literal for int() with base 10: {Text.quotedString text}"
  | millisecondsNotANumber => "cannot convert float NaN to integer"
  | millisecondsInfinite => "cannot convert float infinity to integer"

/-- The second that has begun at a time. A clock has 64 bits, and a year has 32. -/
def beganSecond (time : Number) : Except TimestampError Int :=
  match time.floor?, time with
  | some second, _ =>
    if second < -Int.pow 2 63 ∨ Int.pow 2 63 ≤ second then .error .beyondClock
    else if second < -67768040609740800 ∨ 67768036191676799 < second then .error .beyondCalendar
    else if 67767976233532799 < second then .error .beyondYears
    else .ok second
  | none, .float (.infinite _) => .error .beyondClock
  | none, _ => .error .notANumber

/-- The integer part of milliseconds. -/
def wholeMilliseconds (milliseconds : Number) : Except TimestampError Int :=
  match milliseconds.truncate?, milliseconds with
  | some n, _ => .ok n
  | none, .float (.infinite _) => .error .millisecondsInfinite
  | none, _ => .error .millisecondsNotANumber

/-- The number of seconds a value gives. -/
def secondsOf (time : Json) : Except TimestampError Number :=
  match time.numeric? with
  | some n => .ok n
  | none => .error (.noTime (kindWord time))

/-- The milliseconds a value gives, which may be a text of an integer. -/
def millisecondsOf (milliseconds : Json) : Except TimestampError Int :=
  match milliseconds, milliseconds.numeric? with
  | _, some n => wholeMilliseconds n
  | .string s, none =>
    match Text.integer? s.toList with
    | some n => .ok n
    | none => .error (.millisecondsText s)
  | value, none => .error (.noMilliseconds (kindWord value))

/-- The timestamp of a time with its milliseconds. -/
def timestamp (time milliseconds : Json) : Except TimestampError String := do
  let second ← beganSecond (← secondsOf time)
  let milliseconds ← millisecondsOf milliseconds
  return s!"{dateTime second}.{threePlaces milliseconds}Z"

end Courier.Log
