import Courier.Log.Placeholder

/-!
# Messages with arguments

A template is text with placeholders. Each starts with a percent sign; two of them stand for one.
Then come, all optional, the key of the argument between parentheses, flags, a width, a precision
after a point, and a size that means nothing, and at last the letter of the notation. A width or
precision may be an asterisk, for which an argument is taken.

The template is read one character at a time: `Filling.feed` says what a character does in each
phase of a placeholder, and what is left over at the end decides whether the arguments fit. A
template without arguments is taken as it is.
-/

namespace Courier.Log

/-- What fills a template: arguments by position, or one value, which may be looked into by keys. -/
inductive Arguments where
  | positions (items : List Json)
  | value (item : Json)
  deriving Repr

namespace Arguments

/-- The arguments that are taken one after the other. -/
def items : Arguments → List Json
  | positions items => items
  | value item => [item]

/-- The value that keys are looked up in, if there is one. -/
def source? : Arguments → Option Json
  | value (.array items) => some (.array items)
  | value (.object members) => some (.object members)
  | value (.foreign octets) => if octets.kind == "bytes" then some (.foreign octets) else none
  | _ => none

/-- Whether a template is taken as it is. -/
def isVoid : Arguments → Bool
  | positions items => items.isEmpty
  | value item => item.isVoid

end Arguments

/-- The value of a key. -/
def lookUp (key : String) : Option Json → Except TemplateError Json
  | none => .error (.misfit .noKeys)
  | some (.object members) =>
    match members.lookup key with
    | some value => .ok value
    | none => .error (.missingKey key)
  | some (.array _) => .error (.misfit (.onlyPositions "list"))
  | some _ => .error (.misfit (.onlyPositions "byte"))

/-- The part of a placeholder that is read next. -/
inductive Phase where
  /-- Outside of placeholders. -/
  | text
  /-- After the percent sign. -/
  | opened
  /-- Within a key: how many parentheses are open, and the key so far, last character first. -/
  | key (depth : Nat) (before : List Char)
  | flags
  /-- Within the digits of a width. -/
  | width
  /-- After a width that an argument gave. -/
  | widthTaken
  /-- After the point of a precision. -/
  | point
  /-- Within the digits of a precision. -/
  | precision
  /-- After a precision that an argument gave. -/
  | precisionTaken
  /-- After a size. -/
  | size
  deriving DecidableEq, Repr

/-- A template that is being filled: the text so far, last character first, the arguments that are
    left, and where the reading stands. -/
structure Filling where
  text : List Char
  left : List Json
  placeholder : Placeholder
  phase : Phase
  deriving Repr

namespace Filling

/-- A filling at its start. -/
def start (arguments : Arguments) : Filling := ⟨[], arguments.items, .simple, .text⟩

/-- Takes the next argument. -/
def take (f : Filling) : Except TemplateError (Json × Filling) :=
  match f.left with
  | [] => .error (.misfit .tooFewArguments)
  | argument :: left => .ok (argument, { f with left })

/-- Takes an argument for a count, which is at most `limit`. -/
def takeCount (f : Filling) (limit : Nat) (beyond : Beyond) :
    Except TemplateError (Int × Filling) := do
  let (argument, f) ← f.take
  match Placeholder.integer? argument with
  | none => .error (.misfit .noCount)
  | some n => if n < -(limit : Int) - 1 ∨ limit < n then .error (.beyond beyond) else return (n, f)

/-- The greatest width. -/
def maxWidth : Nat := Nat.pow 2 63 - 1

/-- The greatest precision. -/
def maxPrecision : Nat := Nat.pow 2 31 - 1

/-- A count with one more digit. -/
def addDigit (count : Nat) (c : Char) : Nat := 10 * count + (c.toNat - '0'.toNat)

/-- The letter of a placeholder, at a position: the argument is converted. -/
def close (f : Filling) (position : Nat) (c : Char) : Except TemplateError Filling := do
  let (argument, f) ← f.take
  let text ← f.placeholder.convert c position argument
  return { f with text := text.reverse ++ f.text, placeholder := .simple, phase := .text }

/-- What may follow a precision. -/
def feedSize (f : Filling) (position : Nat) (c : Char) : Except TemplateError Filling :=
  if c = 'h' ∨ c = 'l' ∨ c = 'L' then .ok { f with phase := .size } else f.close position c

/-- What may follow a width. -/
def feedPoint (f : Filling) (position : Nat) (c : Char) : Except TemplateError Filling :=
  if c = '.' then
    .ok { f with placeholder := { f.placeholder with precision := some 0 }, phase := .point }
  else f.feedSize position c

/-- What may follow the flags. -/
def feedWidth (f : Filling) (position : Nat) (c : Char) : Except TemplateError Filling :=
  if c = '*' then do
    let (n, f) ← f.takeCount maxWidth .width
    let placeholder :=
      { f.placeholder with
        width := n.natAbs, leftAligned := f.placeholder.leftAligned || n < 0 }
    return { f with placeholder, phase := .widthTaken }
  else if c.isDigit then
    .ok { f with placeholder := { f.placeholder with width := addDigit 0 c }, phase := .width }
  else f.feedPoint position c

/-- What may follow the key. -/
def feedFlags (f : Filling) (position : Nat) (c : Char) : Except TemplateError Filling :=
  match f.placeholder.withFlag? c with
  | some placeholder => .ok { f with placeholder, phase := .flags }
  | none => f.feedWidth position c

/-- What may follow the point of a precision. -/
def feedPrecision (f : Filling) (position : Nat) (c : Char) : Except TemplateError Filling :=
  if c = '*' then do
    let (n, f) ← f.takeCount maxPrecision .precision
    return { f with
      placeholder := { f.placeholder with precision := some n.toNat }, phase := .precisionTaken }
  else if c.isDigit then
    .ok { f with
      placeholder := { f.placeholder with precision := some (addDigit 0 c) }, phase := .precision }
  else f.feedSize position c

/-- A character of a key. The argument of the key takes the place of all that are left. -/
def feedKey (f : Filling) (source : Option Json) (depth : Nat) (before : List Char) (c : Char) :
    Except TemplateError Filling :=
  if c = ')' then
    if depth = 0 then do
      let value ← lookUp (String.ofList before.reverse) source
      return { f with left := [value], phase := .flags }
    else .ok { f with phase := .key (depth - 1) (c :: before) }
  else .ok { f with phase := .key (if c = '(' then depth + 1 else depth) (c :: before) }

/-- What a character at a position does. -/
def feed (source : Option Json) (f : Filling) (position : Nat) (c : Char) :
    Except TemplateError Filling :=
  match f.phase with
  | .text => .ok (if c = '%' then { f with phase := .opened } else { f with text := c :: f.text })
  | .opened =>
    if c = '%' then .ok { f with text := c :: f.text, phase := .text }
    else if c = '(' then
      if source.isNone then .error (.misfit .noKeys) else .ok { f with phase := .key 0 [] }
    else f.feedFlags position c
  | .key depth before => f.feedKey source depth before c
  | .flags => f.feedFlags position c
  | .width =>
    if c.isDigit then
      let width := addDigit f.placeholder.width c
      if maxWidth < width then .error (.malformed .widthTooBig)
      else .ok { f with placeholder := { f.placeholder with width } }
    else f.feedPoint position c
  | .widthTaken => f.feedPoint position c
  | .point => f.feedPrecision position c
  | .precision =>
    if c.isDigit then
      let precision := addDigit (f.placeholder.precision.getD 0) c
      if maxPrecision < precision then .error (.malformed .precisionTooBig)
      else .ok { f with placeholder := { f.placeholder with precision := some precision } }
    else f.feedSize position c
  | .precisionTaken => f.feedSize position c
  | .size => f.close position c

/-- The text of a template that has been read. Arguments by position have to be used up. -/
def finish (source : Option Json) (f : Filling) : Except TemplateError (List Char) :=
  match f.phase with
  | .text =>
    if !f.left.isEmpty && source.isNone then .error (.misfit .tooManyArguments)
    else .ok f.text.reverse
  | .key _ _ => .error (.malformed .incompleteKey)
  | _ => .error (.malformed .incomplete)

/-- Reads the rest of a template that starts at a position. -/
def run (source : Option Json) (f : Filling) (position : Nat) :
    List Char → Except TemplateError (List Char)
  | [] => f.finish source
  | c :: rest => do (← f.feed source position c).run source (position + 1) rest

end Filling

/-- The message of a template and its arguments. -/
def fill (template : String) (arguments : Arguments) : Except TemplateError String :=
  if arguments.isVoid then .ok template
  else do
    let text ← (Filling.start arguments).run arguments.source? 0 template.toList
    return String.ofList text

end Courier.Log
