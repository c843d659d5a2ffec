import Courier.Number.Calendar
import Courier.Text.Case
import Courier.Text.Integer

/-!
# Dates of expiry

The date of an expiry is a day, a month and a year, separated by blanks, hyphens or slashes, after
the name of a weekday or without one. A time of day may follow, then a zone, then a remark in
parentheses. A date without a zone is in UTC, which has other names as well; of the other zones only
those are known that are given by hours and minutes. A year below one thousand is one of the years
near to the present.

A date may also have the form of fixed width that servers are to write. Its weekday may then have
any name, and its year is taken as it is.
-/

namespace Courier.Http

/-- What the text of an expiry says. -/
inductive Expiry where
  /-- The time is over at this second. -/
  | second (value : Int)
  /-- The text is no date after 1970. -/
  | undated
  /-- The text has the form of fixed width, and there is no such month. -/
  | misnamed
  deriving DecidableEq, Repr

/-- A date as it is written. -/
structure WrittenDate where
  day : Nat
  month : List Char
  year : Nat
  hour : Nat
  minute : Nat
  second : Nat
  zone : Option (List Char)
  deriving DecidableEq, Repr

namespace WrittenDate

/-- The weekdays, in lower case. -/
def weekdays : List String := ["sun", "mon", "tue", "wed", "thu", "fri", "sat"]

/-- The months, in lower case. -/
def months : List String :=
  ["jan", "feb", "mar", "apr", "may", "jun", "jul", "aug", "sep", "oct", "nov", "dec"]

/-- The text in lower case. -/
def lowered (cs : List Char) : String := Text.lower (String.ofList cs)

/-- The text without the blanks at its start. -/
def skipBlanks (cs : List Char) : List Char := cs.dropWhile Char.isWhitespace

/-- The rest of a text that starts with this character. -/
def after? (c : Char) (cs : List Char) : Option (List Char) :=
  if cs.head? = some c then some cs.tail else none

/-- The number at the start of a text, in this many digits at least and at most, and the rest. -/
def number? (least most : Nat) (cs : List Char) : Option (Nat × List Char) :=
  let digits := (cs.take most).takeWhile Char.isDigit
  if digits.length < least then none
  else (Text.natural? digits).map (·, cs.drop digits.length)

/-- The rest of a text after the separator of two parts of a date. -/
def separated? : List Char → Option (List Char)
  | c :: cs =>
    if c = '-' ∨ c = '/' then some cs else if c.isWhitespace then some (skipBlanks cs) else none
  | [] => none

/-- The text without the name of a weekday at its start, which may be longer than three letters. -/
def withoutWeekday (cs : List Char) : List Char :=
  if weekdays.contains (lowered (cs.take 3)) then
    let rest := (cs.drop 3).dropWhile Char.isAlpha
    skipBlanks ((after? ',' rest).getD rest)
  else cs

/-- The time of day at the start of a text, and the rest. Blanks or a colon come before it. -/
def clock? (cs : List Char) : Option ((Nat × Nat × Nat) × List Char) := do
  let start ← after? ':' cs <|> if cs.head?.any Char.isWhitespace then some (skipBlanks cs) else
    none
  let (hour, rest) ← number? 1 2 start
  let (minute, rest) ← number? 2 2 (← after? ':' rest)
  match (after? ':' rest).bind (number? 2 2) with
  | some (second, rest) => return ((hour, minute, second), rest)
  | none => return ((hour, minute, 0), rest)

/-- The zone at the start of a text, and the rest: letters, which are no half of a day, or two to
    four digits with a sign or without. -/
def zone? (cs : List Char) : Option (List Char × List Char) :=
  let letters := cs.takeWhile Char.isAlpha
  if letters.isEmpty then
    let sign := if cs.head? = some '-' ∨ cs.head? = some '+' then cs.take 1 else []
    let digits := ((cs.drop sign.length).take 4).takeWhile Char.isDigit
    if digits.length < 2 then none
    else some (sign ++ digits, cs.drop (sign.length + digits.length))
  else if ["am", "pm"].contains (lowered letters) then none
  else some (letters, cs.drop letters.length)

/-- The text without a remark in parentheses, a single word, and the blanks after it. -/
def withoutRemark (cs : List Char) : List Char :=
  match cs with
  | '(' :: rest =>
    let word := rest.takeWhile fun c => c.isAlphanum || c = '_'
    match word, rest.drop word.length with
    | _ :: _, ')' :: rest => skipBlanks rest
    | _, _ => cs
  | _ => cs

/-- The date a text gives that starts with the day. -/
def ofText? (cs : List Char) : Option WrittenDate := do
  let (day, cs) ← number? 1 2 cs
  let cs ← separated? cs
  let month := cs.takeWhile fun c => c.isAlphanum || c = '_'
  let cs ← separated? (cs.drop month.length)
  let (year, cs) ← number? 1 cs.length cs
  let ((hour, minute, second), cs) := (clock? cs).getD ((0, 0, 0), cs)
  let cs := skipBlanks cs
  let zoned := zone? cs
  let cs := withoutRemark (skipBlanks (zoned.elim cs Prod.snd))
  if cs.isEmpty then some ⟨day, month, year, hour, minute, second, zoned.map Prod.fst⟩ else none

/-- The number of a month, which has a name or is given by its number. -/
def monthNumber? (month : List Char) : Option Nat :=
  match months.findIdx? (· == lowered month) with
  | some i => some (i + 1)
  | none => (Text.natural? month).filter fun n => 1 ≤ n ∧ n ≤ 12

/-- The seconds by which a zone is before UTC. -/
def zoneOffset? (zone : List Char) : Option Int :=
  if ["gmt", "utc", "ut", "z"].contains (lowered zone) then some 0
  else
    let digits := zone.dropWhile fun c => c = '-' ∨ c = '+'
    let hours := if digits.length ≤ 2 then digits else digits.take (digits.length - 2)
    let minutes := digits.drop hours.length
    (Text.natural? hours).map fun h =>
      let offset : Int := 3600 * h + 60 * ((Text.natural? minutes).getD 0 : Nat)
      if zone.head? = some '-' then -offset else offset

/-- The second of a date in this year. It is one of the years from 1970 on. -/
def second? (date : WrittenDate) (year : Int) : Option Int := do
  let month ← monthNumber? date.month
  let offset ← zoneOffset? (date.zone.getD "UTC".toList)
  if year < 1970 ∨ date.day = 0 ∨ 31 < date.day ∨ 24 < date.hour ∨ 59 < date.minute
    ∨ 61 < date.second
  then none
  else
    let time : Nat := 3600 * date.hour + 60 * date.minute + date.second
    some ((Date.mk year month date.day).days * 86400 + time - offset)

/-- The year that a year below one thousand stands for in the present year: that of the century
    where the two are not more than fifty years apart. -/
def nearYear (present : Int) (year : Nat) : Int :=
  if 1000 ≤ year then year
  else
    let ahead := year - present.emod 100
    present - present.emod 100 + year
      + (if 50 < ahead then -100 else if ahead < -50 then 100 else 0)

end WrittenDate

namespace Expiry

/-- The form of fixed width. `D` is the first letter of a weekday, `M` that of a month, `a` another
    letter of a name, and `0` a digit. -/
def fixedForm : String := "Daa, 00 Maa 0000 00:00:00"

/-- Whether a text has the form of fixed width. -/
def isFixed (cs : List Char) : Bool :=
  cs.drop fixedForm.length == " GMT".toList &&
    (cs.zip fixedForm.toList).all fun (c, form) =>
      match form with
      | 'D' => "SMTWF".toList.contains c
      | 'M' => "JFMASOND".toList.contains c
      | 'a' => c.isLower
      | '0' => c.isDigit
      | form => c = form

/-- What a text without quotes says at this second. -/
def read (now : Int) (cs : List Char) : Expiry :=
  if isFixed cs then
    match WrittenDate.ofText? (cs.drop 5) with
    | some date =>
      if (WrittenDate.monthNumber? date.month).isNone then misnamed
      else (date.second? date.year).elim undated second
    | none => undated
  else
    let date := WrittenDate.ofText? (WrittenDate.withoutWeekday (WrittenDate.skipBlanks cs))
    let present := (Date.ofDays (now.fdiv 86400)).year
    (date.bind fun date =>
      if 9999 < date.year then none
      else date.second? (WrittenDate.nearYear present date.year)).elim undated second

end Expiry

end Courier.Http
