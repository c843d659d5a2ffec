import Courier.Number

/-!
# JSON values

The values of structured log fields and of JSON request bodies. An integer keeps all its digits and
is apart from a float of the same value; the members of an object keep their order. A value that
JSON does not know stands for the text that shows it.
-/

namespace Courier

/-- A value JSON does not know: the word for what it is, the text that shows it, the text that shows
    it inside another value, and whether it counts as nothing. -/
structure Foreign where
  kind : String
  shown : String
  spelled : String
  isVoid : Bool
  deriving DecidableEq, Inhabited, Repr

/-- A value of a kind with one text, which does not count as nothing. -/
def Foreign.plain (kind text : String) : Foreign := ⟨kind, text, text, false⟩

/-- A JSON value. -/
inductive Json where
  | null
  | bool (value : Bool)
  | number (value : Number)
  | string (value : String)
  | array (items : List Json)
  | object (members : List (String × Json))
  | foreign (value : Foreign)
  deriving Inhabited, Repr

namespace Json

/-- An integer as a value. -/
def integer (n : Int) : Json := number (.integer n)

/-- A string or nothing as a value. -/
def ofOption : Option String → Json
  | none => null
  | some s => string s

/-- The number a value counts as; a truth value counts as zero or one. -/
def numeric? : Json → Option Number
  | number n => some n
  | bool value => some (if value then 1 else 0)
  | _ => none

/-- Whether a value counts as nothing: a missing, false or zero value, and an empty one. -/
def isVoid : Json → Bool
  | null => true
  | bool value => !value
  | number n => n.same 0
  | string s => s.isEmpty
  | array items => items.isEmpty
  | object members => members.isEmpty
  | foreign value => value.isVoid

/-- Whether two values are the same item of a set. Numbers are compared by value; arrays and objects
    are no items. -/
def sameItem (a b : Json) : Bool :=
  match a.numeric?, b.numeric? with
  | some m, some n => m.same n
  | _, _ =>
    match a, b with
    | null, null => true
    | string s, string t => s == t
    | foreign v, foreign w => v == w
    | _, _ => false

mutual

/-- Whether a value holds a NaN or an infinity, which JSON has no text for. -/
def isBeyondRange : Json → Bool
  | number (.float .nan) => true
  | number (.float (.infinite _)) => true
  | array items => anyBeyondRange items
  | object members => anyMemberBeyondRange members
  | _ => false

/-- Whether one of the items does. -/
def anyBeyondRange : List Json → Bool
  | [] => false
  | item :: rest => isBeyondRange item || anyBeyondRange rest

/-- Whether one of the members does. -/
def anyMemberBeyondRange : List (String × Json) → Bool
  | [] => false
  | (_, value) :: rest => isBeyondRange value || anyMemberBeyondRange rest

end

/-- Sets a member: its value is replaced where it stands, and a new member comes last. -/
def setMember (members : List (String × Json)) (key : String) (value : Json) :
    List (String × Json) :=
  if members.any (·.1 == key) then
    members.map fun member => if member.1 == key then (key, value) else member
  else members ++ [(key, value)]

/-- The value of a member. -/
def member? : Json → String → Option Json
  | object members, key => members.lookup key
  | _, _ => none

end Json

end Courier
