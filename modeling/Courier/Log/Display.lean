import Courier.Json.Basic
import Courier.Text.Quoted

/-!
# Values inside messages

A string in a message stands for itself, and a string inside another value is quoted.
-/

namespace Courier.Log

mutual

/-- A value as it is written inside another one. -/
def spelled : Json → String
  | .null => "None"
  | .bool true => "True"
  | .bool false => "False"
  | .number n => n.text
  | .string s => Text.quotedString s
  | .foreign value => value.spelled
  | .array items => "[" ++ spelledItems items ++ "]"
  | .object members => "\x7b" ++ spelledMembers members ++ "\x7d"

/-- The items of an array, with commas between them. -/
def spelledItems : List Json → String
  | [] => ""
  | [item] => spelled item
  | item :: rest => spelled item ++ ", " ++ spelledItems rest

/-- The members of an object, with commas between them. -/
def spelledMembers : List (String × Json) → String
  | [] => ""
  | [(key, value)] => Text.quotedString key ++ ": " ++ spelled value
  | (key, value) :: rest =>
    Text.quotedString key ++ ": " ++ spelled value ++ ", " ++ spelledMembers rest

end

/-- A value as it is shown in a message. -/
def shown : Json → String
  | .string s => s
  | .foreign value => value.shown
  | value => spelled value

/-- A set of values. Of items that are the same the first one stays; a set of numbers is shown in
    ascending order, any other one in the order of its items. -/
def setOf (items : List Json) : Json :=
  let kept := items.foldl (fun kept item =>
    if kept.any (·.sameItem item) then kept else kept ++ [item]) []
  let kept :=
    if kept.all (·.numeric?.isSome) then
      kept.mergeSort fun a b => match a.numeric?, b.numeric? with
        | some m, some n => !n.less m
        | _, _ => true
    else kept
  let text := if kept.isEmpty then "set()" else "\x7b" ++ spelledItems kept ++ "\x7d"
  .foreign ⟨"set", text, text, kept.isEmpty⟩

/-- Octets as a value. -/
def octetsValue (octets : Octets) : Json :=
  let text := String.ofList (Text.quotedOctets octets)
  .foreign ⟨"bytes", text, text, octets.isEmpty⟩

/-- The word for what a value is. -/
def kindWord : Json → String
  | .null => "NoneType"
  | .bool _ => "bool"
  | .number (.integer _) => "int"
  | .number (.float _) => "float"
  | .string _ => "str"
  | .foreign value => value.kind
  | .array _ => "list"
  | .object _ => "dict"

end Courier.Log
