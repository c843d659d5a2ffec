import Courier.Proofs.Cache
import Courier.Proofs.Printable
import Courier.Proofs.Results

/-!
# The members of log lines

Members that are set one after the other come to one for each name: it stands where the name comes
first, with the value that the name has last (`Json.Merges`). A record is written as its own
members, the report of its fault and its extra attributes, set in this order
(`Log.Entry.Tells.merges`).

The names that attributes of a record are not written under are those that a logger gives a record.
Of the nine names of what a record tells by itself, they leave six to attributes. So an object tells
what the record does exactly if no attribute says otherwise under one of the six
(`Log.Entry.unforged_iff`).
-/

namespace Courier

namespace Json

section Setting

variable (members : List (String × Json)) (name other : String) (value : Json)

theorem setMember_eq : setMember members name value =
    if (members.lookup name).isSome then
      members.map fun member => if member.1 == name then (name, value) else member
    else members ++ [(name, value)] := by
  rw [setMember, any_eq_lookup_isSome]

theorem lookup_setMember :
    (setMember members name value).lookup other =
    if other = name then some value else members.lookup other := by
  rw [setMember_eq]
  exact lookup_set members name other value

theorem names_setMember : (setMember members name value).map Prod.fst =
    if name ∈ members.map Prod.fst then members.map Prod.fst else members.map Prod.fst ++
      [name] := by
  rw [setMember_eq]
  exact keys_set members name value

end Setting

/-- Whether members are what pairs come to that are set one after the other. -/
structure Merges (pairs members : List (String × Json)) : Prop where
  names : members.map Prod.fst = (pairs.map Prod.fst).eraseDups
  values : ∀ name, members.lookup name = pairs.reverse.lookup name

variable {pairs members : List (String × Json)}

theorem Merges.concat (merges : Merges pairs members) (pair : String × Json) :
    Merges (pairs ++ [pair]) (setMember members pair.1 pair.2) := by
  constructor
  · rw [names_setMember, merges.names, List.map_append, List.map_singleton, eraseDups_concat]
  · intro name
    rw [lookup_setMember, merges.values, List.reverse_concat, lookup_cons_ite]

theorem Merges.foldl (merges : Merges pairs members) (more : List (String × Json)) :
    Merges (pairs ++ more) (more.foldl (fun members pair => setMember members pair.1 pair.2)
      members) := by
  induction more generalizing pairs members with
  | nil => rwa [List.append_nil]
  | cons pair more ih =>
    rw [List.append_cons]
    exact ih (merges.concat pair)

/-- Members of different names come to themselves. -/
theorem merges_of_nodup (nodup : (pairs.map Prod.fst).Nodup) : Merges pairs pairs :=
  ⟨(eraseDups_of_nodup nodup).symm, fun name => (lookup_reverse_of_nodup name nodup).symm⟩

variable {own more : List (String × Json)}

/-- Members of different names stay as they are if others that are set after them say nothing else
    under their names. -/
theorem Merges.isPrefix (merges : Merges (own ++ more) members) (nodup : (own.map Prod.fst).Nodup)
    (same : ∀ name ∈ own.map Prod.fst, ∀ value, more.reverse.lookup name = some value →
      own.lookup name = some value) :
    own <+: members := by
  have names : (members.take own.length).map Prod.fst = own.map Prod.fst := by
    rw [List.map_take, merges.names, List.map_append, List.eraseDups_append,
      eraseDups_of_nodup nodup, ← List.length_map Prod.fst, List.take_left]
  have first : members.take own.length = own := by
    apply eq_of_lookup names (names ▸ nodup)
    intro name member
    have present : (members.take own.length).lookup name ≠ none := (mem_keys_iff _ _).mp member
    have whole : members.lookup name = (members.take own.length).lookup name := by
      conv_lhs => rw [← List.take_append_drop own.length members]
      rw [List.lookup_append]
      exact Option.or_of_isSome (Option.isSome_iff_ne_none.mpr present)
    rw [← whole, merges.values, List.reverse_append, List.lookup_append,
      lookup_reverse_of_nodup name nodup]
    cases said : more.reverse.lookup name with
    | none => rw [Option.none_or]
    | some value => rw [Option.some_or, same name (names ▸ member) value said]
  have split := List.take_append_drop own.length members
  rw [first] at split
  exact ⟨_, split⟩

end Json

namespace Log

/-- The texts that a record is written with: its timestamp, its message, and the report of its fault
    if it has one. -/
structure Entry.Tells (e : Entry) (timestamp message : String) (report : Option String) : Prop where
  timestamp : Log.timestamp e.time e.milliseconds = .ok timestamp
  message : fill (shown e.template) e.arguments = .ok message
  report : e.attachment.mapM Attachment.report = .ok report

/-- What a record tells by itself, in the order in which it is written. -/
def Entry.standard (e : Entry) (timestamp message : String) (report : Option String) :
    List (String × Json) :=
  [("timestamp", .string timestamp), ("level", e.levelName), ("logger", e.logger),
    ("message", .string message),
    ("module", e.module), ("function", e.function), ("line", e.line), ("thread", e.thread)] ++
  (report.map fun report => ("exception", Json.string report)).toList

/-- The names of what a record can tell by itself. -/
def standardNames : List String :=
  ["timestamp", "level", "logger", "message", "module", "function", "line", "thread", "exception"]

/-- The names of these that are not reserved. -/
def openNames : List String := ["timestamp", "level", "logger", "function", "line", "exception"]

variable {e : Entry} {timestamp message : String} {report : Option String}

theorem Entry.faultMembers_eq (e : Entry) :
    e.faultMembers = ((e.attachment.mapM Attachment.report).mapError .attachment).map fun report =>
      (report.map fun report => ("exception", Json.string report)).toList := by
  unfold faultMembers
  cases e.attachment with
  | none => rfl
  | some attachment =>
    simp only [Option.mapM_some]
    cases attachment.report <;> rfl

theorem Entry.Tells.members (tells : e.Tells timestamp message report) :
    e.members = .ok (e.writtenExtras.foldl
      (fun members extra => Json.setMember members extra.1 extra.2)
      (e.standard timestamp message report)) := by
  rw [Entry.members, ownMembers, faultMembers_eq, tells.timestamp, tells.message, tells.report]
  rfl

theorem Entry.standard_names : (e.standard timestamp message report).map Prod.fst =
    if report.isSome then standardNames else standardNames.dropLast := by
  cases report <;> rfl

theorem Entry.standard_nodup : ((e.standard timestamp message report).map Prod.fst).Nodup := by
  rw [standard_names]
  split <;> decide

theorem Entry.standard_subset :
    ∀ name ∈ (e.standard timestamp message report).map Prod.fst, name ∈ standardNames := by
  rw [standard_names]
  split <;> decide

/-- The members of a record are what it tells by itself and its attributes come to. -/
theorem Entry.Tells.merges (tells : e.Tells timestamp message report) :
    ∃ members, e.members = .ok members ∧
    Json.Merges (e.standard timestamp message report ++ e.writtenExtras) members :=
  ⟨_, tells.members, (Json.merges_of_nodup standard_nodup).foldl _⟩

theorem openNames_unreserved : ∀ name ∈ openNames, reservedNames.contains name = false := by decide

theorem mem_openNames :
    ∀ name ∈ standardNames, reservedNames.contains name = false → name ∈ openNames := by decide

theorem openNames_subset : ∀ name ∈ openNames, name ∈ standardNames := by decide

theorem Entry.lookup_writtenExtras (name : String) : e.writtenExtras.reverse.lookup name =
    if reservedNames.contains name then none else e.extras.reverse.lookup name := by
  rw [writtenExtras, ← List.filter_reverse, lookup_filter _ name fun name =>
    !reservedNames.contains name]
  cases reservedNames.contains name <;> rfl

/-- Whether the object of a record starts with what the record tells by itself, and has none of
    these names after it. -/
def Entry.Unforged (e : Entry) (timestamp message : String) (report : Option String) : Prop :=
  ∃ others, e.members = .ok (e.standard timestamp message report ++ others) ∧
    ∀ other ∈ others, other.1 ∉ standardNames

/-- An object tells what its record does exactly if no attribute says otherwise under a name left to
    attributes. -/
theorem Entry.unforged_iff (tells : e.Tells timestamp message report) :
    e.Unforged timestamp message report ↔
    ∀ name ∈ openNames, ∀ value, e.extras.reverse.lookup name = some value →
      (e.standard timestamp message report).lookup name = some value := by
  obtain ⟨members, written, merges⟩ := tells.merges
  have values (name : String) : members.lookup name =
      (e.writtenExtras.reverse.lookup name).or
        ((e.standard timestamp message report).lookup name) := by
    rw [merges.values, List.reverse_append, List.lookup_append,
      lookup_reverse_of_nodup name standard_nodup]
  constructor
  · rintro ⟨others, written', apart⟩ name isOpen value said
    obtain rfl := Except.ok.inj (written.symm.trans written')
    have absent : others.lookup name = none := by
      refine Classical.not_not.mp fun present => ?_
      obtain ⟨other, member, rfl⟩ := List.mem_map.mp ((mem_keys_iff others name).mpr present)
      exact apart other member (openNames_subset _ isOpen)
    have given := values name
    rwa [lookup_writtenExtras, openNames_unreserved name isOpen, if_neg Bool.false_ne_true, said,
      Option.some_or, List.lookup_append, absent, Option.or_none] at given
  · intro same
    have heeds : ∀ name ∈ standardNames, ∀ value, e.writtenExtras.reverse.lookup name = some value →
        (e.standard timestamp message report).lookup name = some value := by
      intro name standard value said
      rw [lookup_writtenExtras] at said
      split at said
      · cases said
      · rename_i unreserved
        exact same name (mem_openNames name standard (Bool.eq_false_iff.mpr unreserved)) value said
    obtain ⟨others, rfl⟩ :=
      merges.isPrefix standard_nodup fun name member => heeds name (standard_subset name member)
    refine ⟨others, written, ?_⟩
    intro other member standard
    -- a standard name among the others would be one that only an attribute gives
    have nodup : ((e.standard timestamp message report ++ others).map Prod.fst).Nodup := by
      rw [merges.names]
      exact eraseDups_nodup _
    rw [List.map_append, List.nodup_append] at nodup
    have later := List.mem_map_of_mem (f := Prod.fst) member
    have absent : (e.standard timestamp message report).lookup other.1 = none := by
      refine Classical.not_not.mp fun present => ?_
      exact nodup.2.2 _ ((mem_keys_iff _ _).mpr present) _ later rfl
    have given := values other.1
    rw [List.lookup_append, absent, Option.none_or, Option.or_none] at given
    obtain ⟨value, found⟩ := Option.ne_none_iff_exists'.mp ((mem_keys_iff _ _).mp later)
    rw [found] at given
    exact absurd (heeds _ standard value given.symm) (by simp [absent])

theorem Entry.warning_tells (message : String) (extras : List (String × Json)) :
    ∃ timestamp, (warning message extras).Tells timestamp message none := ⟨_, rfl, rfl, rfl⟩

/-- A warning with an attribute that repeats its level, and another one. -/
theorem Entry.unforged_iff_repeated :
    ∃ timestamp, (warning "a" [("level", .string "WARNING"), ("attempt", .integer 2)]).Tells
      timestamp "a" none ∧
      ((warning "a" [("level", .string "WARNING"), ("attempt", .integer 2)]).Unforged
        timestamp "a" none ↔
        ∀ name ∈ openNames, ∀ value,
          [("attempt", Json.integer 2), ("level", .string "WARNING")].lookup name = some value →
            ((warning "a" [("level", .string "WARNING"), ("attempt", .integer 2)]).standard
              timestamp "a" none).lookup
              name = some value) := by
  obtain ⟨timestamp, tells⟩ :=
    warning_tells "a" [("level", .string "WARNING"), ("attempt", .integer 2)]
  exact ⟨timestamp, tells, unforged_iff tells⟩

/-- A warning without a fault, and with attributes named like its level and like a fault. -/
def Entry.forged : Entry := warning "a" [("level", .string "DEBUG"), ("exception", .string "b")]

/-- It is written as a record of another level that has a fault. -/
theorem Entry.forged_level : ∃ timestamp members, forged.Tells timestamp "a" none ∧
    forged.members = .ok members ∧ members.lookup "level" = some (.string "DEBUG") ∧
      members.lookup "exception" = some (.string "b") ∧ ¬ forged.Unforged timestamp "a" none := by
  obtain ⟨timestamp, tells⟩ :=
    warning_tells "a" [("level", .string "DEBUG"), ("exception", .string "b")]
  obtain ⟨members, written, merges⟩ := tells.merges
  have level : members.lookup "level" = some (.string "DEBUG") := merges.values "level"
  refine ⟨timestamp, members, tells, written, level, merges.values "exception", ?_⟩
  rintro ⟨others, written', -⟩
  obtain rfl := Except.ok.inj (written.symm.trans written')
  rw [List.lookup_append] at level
  change some (Json.string "WARNING") = _ at level
  simp at level

end Log

end Courier
