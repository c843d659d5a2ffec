import Courier.Proofs.Literals
import Courier.Proofs.Members

/-!
# Values read back from their text

A string is read back from its text, whatever characters it has: each is read from its escape, those
beyond the basic plane from two surrogates (`Json.readString_text`). Integers of any size and finite
floating-point numbers are read back up to where they stop (`Json.readScalar_append`). So a value is
read back from its text, with strings in the place of the values that JSON does not know
(`Json.read?_text`), and the line of a record as the object it is (`Log.Entry.line_reads`).
-/

namespace Courier.Json

/-! ## Strings -/

theorem hexValue?_hexDigit {n : Nat} (small : n < 16) : Text.hexValue? (Text.hexDigit n) = some n :=
  (by decide : ∀ n < 16, Text.hexValue? (Text.hexDigit n) = some n) n small

/-- The escape of a code unit is read as it, after any high surrogate. -/
theorem readString_unitEscape {n : Nat} (small : n < 0x10000) (before : List Char)
    (pending : Option Nat) (rest : List Char) : readString before pending (unitEscape n ++ rest) =
      match addUnit? pending n with
      | some (character, pending) => readString (character.toList ++ before) pending rest
      | none => none := by
  have digit (n : Nat) : Text.hexValue? (Text.hexDigit (n % 16)) = some (n % 16) :=
    hexValue?_hexDigit (Nat.mod_lt _ (by decide))
  have whole : ((n / 16 / 16 / 16 % 16 * 16 + n / 16 / 16 % 16) * 16 + n / 16 % 16) * 16 +
    n % 16 = n := by omega
  have read : unit? (Text.hexDigit (n / 16 / 16 / 16 % 16)) (Text.hexDigit (n / 16 / 16 % 16))
      (Text.hexDigit (n / 16 % 16)) (Text.hexDigit (n % 16)) = some n := by
    simp only [unit?, digit, Option.bind_eq_bind, Option.bind_some, Option.pure_def, whole]
  simp only [unitEscape, Text.hexDigits, List.nil_append, List.cons_append]
  rw [readString, read]
  rfl

theorem toNat_valid (c : Char) : c.toNat < 0xd800 ∨ 0xdfff < c.toNat ∧ c.toNat < 0x110000 := c.valid

/-- A character is read from the escape of its code. -/
theorem readString_codeEscape (c : Char) (before rest : List Char) :
    readString before none (codeEscape c ++ rest) = readString (c :: before) none rest := by
  have valid := toNat_valid c
  have own := Char.ofNat_toNat c
  unfold codeEscape
  generalize c.toNat = n at *
  simp only
  split
  · rename_i basic
    have unit : addUnit? none n = some (some c, none) := by
      rw [addUnit?, if_neg (by omega), if_neg (by omega), own]
    rw [readString_unitEscape basic, unit]
    rfl
  · rename_i astral
    have high : addUnit? none (0xd800 + (n - 0x10000) / 0x400) =
      some (none, some (0xd800 + (n - 0x10000) / 0x400)) := by
      rw [addUnit?, if_pos (by omega)]
    have sum : 0x10000 + (0xd800 + (n - 0x10000) / 0x400 - 0xd800) * 0x400 +
        (0xdc00 + (n - 0x10000) % 0x400 - 0xdc00) = n := by omega
    have low : addUnit? (some (0xd800 + (n - 0x10000) / 0x400)) (0xdc00 + (n - 0x10000) % 0x400) =
        some (some c, none) := by
      rw [addUnit?, if_pos (by omega), sum, own]
    rw [List.append_assoc, readString_unitEscape (by omega), high]
    simp only [Option.toList_none, List.nil_append]
    rw [readString_unitEscape (by omega), low]
    rfl

/-- A character is read from what it is written as. -/
theorem readString_escapeChar (asciiOnly : Bool) (c : Char) (before rest : List Char) :
    readString before none (escapeChar asciiOnly c ++ rest) =
      readString (c :: before) none rest := by
  rcases escapeChar_cases asciiOnly c with ⟨letter, among, written, stands⟩ | written | ⟨written,
    quote, backslash, low, -⟩
  · rw [written, List.cons_append, List.cons_append, List.nil_append, readString]
    · rintro a b c d rest rfl
      simp at among
    · exact stands
  · rw [written, readString_codeEscape]
  · rw [written, List.cons_append, List.nil_append, readString]
    · rw [if_neg (by simp), if_neg quote, if_neg (Nat.not_lt.mpr low)]
    · exact fun a b c d rest first _ => backslash first
    · exact fun first rest own _ => backslash own

theorem readString_escaped (asciiOnly : Bool) (cs before rest : List Char) :
    readString before none (cs.flatMap (escapeChar asciiOnly) ++ '"' :: rest) =
      some (String.ofList (before.reverse ++ cs), rest) := by
  induction cs generalizing before with
  | nil =>
    rw [List.flatMap_nil, List.nil_append, List.append_nil, readString]
    · rfl
    · simp
    · simp
  | cons c cs ih =>
    rw [List.flatMap_cons, List.append_assoc, readString_escapeChar, ih, List.reverse_cons,
      List.append_assoc, List.singleton_append]

/-- A string is read back from its text. -/
theorem readString_text (asciiOnly : Bool) (s : String) (rest : List Char) :
    ∃ tail, stringText asciiOnly s ++ rest = '"' :: tail ∧
      readString [] none tail = some (s, rest) := by
  refine ⟨s.toList.flatMap (escapeChar asciiOnly) ++ '"' :: rest, ?_, ?_⟩
  · simp [stringText]
  · rw [readString_escaped, List.reverse_nil, List.nil_append, String.ofList_toList]

/-! ## Numbers -/

/-- Whether a number is read from its text as it is. -/
def IsLegible (n : Number) : Prop := number? (numberText n) = some n

/-- Whether what comes after a number does not go on with it. -/
def Stops (rest : List Char) : Prop := ∀ c ∈ rest.head?, isNumberChar c = false

/-- Integers are read back from their text. -/
theorem isLegible_integer (n : Int) : IsLegible (.integer n) := by
  have numeral (k : Nat) : isNumeral (Nat.toDigits 10 k) = true :=
    isNumeral_of_whole (isWhole_toDigits k) isDigit_of_mem_toDigits
  change number? (toString n).toList = some (.integer n)
  unfold number?
  rw [toList_toString]
  by_cases sign : 0 ≤ n
  · have unsigned : (Nat.toDigits 10 n.toNat).head? ≠ some '-' := by
      intro first
      exact absurd (isDigit_of_mem_toDigits _ (List.mem_of_mem_head? first)) (by decide)
    rw [if_pos sign]
    simp only [if_neg unsigned, numeral, Binary64.digitsValue?_toDigits, if_true,
      Int.toNat_of_nonneg sign]
  · have opposite : -((-n).toNat : Int) = n := by omega
    rw [if_neg sign]
    simp only [List.head?_cons, if_true, List.drop_succ_cons, List.drop_zero, numeral,
      Binary64.digitsValue?_toDigits, opposite]

/-- Finite numbers are read back from their text. -/
theorem isLegible_float {x : Binary64} (finite : x.IsFinite) : IsLegible (.float x) := by
  cases x with
  | nan => cases finite
  | infinite negative => cases finite
  | finite negative m e => exact number?_text finite negative

theorem isNumberChar_of_legible {n : Number} (legible : IsLegible n) :
    ∀ c ∈ numberText n, isNumberChar c = true := by
  cases n with
  | integer n =>
    intro c member
    rcases mem_toString c member with digit | rfl
    · exact isNumberChar_of_isDigit digit
    · decide
  | float x =>
    cases x with
    | nan => cases legible
    | infinite negative => cases negative <;> cases legible
    | finite negative m e => exact Binary64.isNumberChar_of_mem_text

/-- A number that is no word is read up to where it stops. -/
theorem readScalar_append {cs rest : List Char} {n : Number} (read : number? cs = some n)
    (chars : ∀ c ∈ cs, isNumberChar c = true) (stops : Stops rest) :
    readScalar (cs ++ rest) = some (number n, rest) := by
  have passes := span_append_of_stops stops chars
  have letter (c : Char) (tail : List Char) (begins : cs ++ rest = c :: tail) :
    isNumberChar c = true := by
    cases cs with
    | nil => cases read
    | cons d cs =>
      rw [List.cons_append, List.cons.injEq] at begins
      exact begins.1 ▸ chars d List.mem_cons_self
  have second (c : Char) (tail : List Char) (begins : cs ++ rest = '-' :: c :: tail) :
    isNumberChar c = true := by
    match cs, read, chars, begins with
    | ['-'], read, _, _ => cases read
    | d :: e :: cs, _, chars, begins =>
      simp only [List.cons_append, List.cons.injEq] at begins
      exact begins.2.1 ▸ chars e (List.mem_cons_of_mem _ List.mem_cons_self)
  unfold readScalar
  split
  · exact absurd (letter _ _ ‹_›) (by decide)
  · exact absurd (letter _ _ ‹_›) (by decide)
  · exact absurd (letter _ _ ‹_›) (by decide)
  · exact absurd (letter _ _ ‹_›) (by decide)
  · exact absurd (letter _ _ ‹_›) (by decide)
  · exact absurd (second _ _ ‹_›) (by decide)
  · rw [passes.1, passes.2, read, Option.map_some]

/-! ## Values -/

mutual

/-- A value with strings that show what JSON does not know. -/
def known : Json → Json
  | foreign value => string value.shown
  | array items => array (knownItems items)
  | object members => object (knownMembers members)
  | value => value

/-- Items with such strings. -/
def knownItems : List Json → List Json
  | [] => []
  | item :: rest => known item :: knownItems rest

/-- Members with such strings. -/
def knownMembers : List (String × Json) → List (String × Json)
  | [] => []
  | (key, value) :: rest => (key, known value) :: knownMembers rest

end

mutual

/-- The floating-point numbers in a value. -/
def floats : Json → List Binary64
  | number (.float x) => [x]
  | array items => itemFloats items
  | object members => memberFloats members
  | _ => []

/-- The floating-point numbers in items. -/
def itemFloats : List Json → List Binary64
  | [] => []
  | item :: rest => floats item ++ itemFloats rest

/-- The floating-point numbers in the values of members. -/
def memberFloats : List (String × Json) → List Binary64
  | [] => []
  | (_, value) :: rest => floats value ++ memberFloats rest

end

theorem knownMembers_eq (members : List (String × Json)) :
    knownMembers members = members.map fun member => (member.1, known member.2) := by
  induction members with
  | nil => rfl
  | cons member members ih => rw [knownMembers, ih, List.map_cons]

theorem memberFloats_eq (members : List (String × Json)) :
    memberFloats members = members.flatMap fun member => floats member.2 := by
  induction members with
  | nil => rfl
  | cons member members ih => rw [memberFloats, ih, List.flatMap_cons]

/-- Whether a text is a character and white space after it. -/
def IsSpaced (separator : Char) (cs : List Char) : Prop :=
  ∃ spaces, cs = separator :: spaces ∧ ∀ c ∈ spaces, isSpace c = true

/-- Whether items, members, keys and values are put apart as JSON has it. -/
structure Style.IsLoose (style : Style) : Prop where
  comma : IsSpaced ',' style.comma
  colon : IsSpaced ':' style.colon

theorem Style.line_isLoose : Style.line.IsLoose :=
  ⟨⟨[' '], rfl, List.all_eq_true.mp rfl⟩, ⟨[' '], rfl, List.all_eq_true.mp rfl⟩⟩

section Spaces

variable {spaces : List Char} (all : ∀ c ∈ spaces, isSpace c = true) (fuel : Nat) (cs : List Char)
include all

theorem skipSpace_append : skipSpace (spaces ++ cs) = skipSpace cs :=
  List.dropWhile_append_of_pos all

theorem readValue_append : readValue fuel (spaces ++ cs) = readValue fuel cs := by
  cases fuel with
  | zero => simp only [readValue]
  | succ fuel => simp only [readValue, skipSpace_append all]

theorem readItems_append : readItems fuel (spaces ++ cs) = readItems fuel cs := by
  cases fuel with
  | zero => simp only [readItems]
  | succ fuel => simp only [readItems, readValue_append all]

theorem readMembers_append : readMembers fuel (spaces ++ cs) = readMembers fuel cs := by
  cases fuel with
  | zero => simp only [readMembers]
  | succ fuel => simp only [readMembers, skipSpace_append all]

end Spaces

theorem skipSpace_cons {c : Char} {cs : List Char} (visible : isSpace c = false) :
    skipSpace (c :: cs) = c :: cs := by
  simp [skipSpace, visible]

theorem isSpace_of_isNumberChar {c : Char} (char : isNumberChar c = true) : isSpace c = false := by
  rw [Bool.eq_false_iff]
  intro space
  simp only [isSpace, Bool.or_eq_true, beq_iff_eq] at space
  rcases space with ((rfl | rfl) | rfl) | rfl
  all_goals exact absurd char (by decide)

theorem numberText_opens {n : Number} (legible : IsLegible n) :
    ∃ c tail, numberText n = c :: tail ∧ isNumberChar c = true := by
  have chars := isNumberChar_of_legible legible
  cases written : numberText n with
  | nil =>
    rw [IsLegible, written] at legible
    cases legible
  | cons c tail => exact ⟨c, tail, rfl, chars c (written ▸ List.mem_cons_self)⟩

theorem isLegible_of_floats {n : Number} (finite : ∀ x ∈ floats (.number n), x.IsFinite) :
    IsLegible n := by
  cases n with
  | integer n => exact isLegible_integer n
  | float x => exact isLegible_float (finite x (List.mem_singleton_self x))

/-- What a value is written with first is no white space, and does not close an array. -/
theorem text_opens (style : Style) {value : Json} (finite : ∀ x ∈ floats value, x.IsFinite) :
    ∃ c tail, text style value = c :: tail ∧ isSpace c = false ∧ c ≠ ']' := by
  cases value with
  | null => exact ⟨_, _, rfl, by decide, by decide⟩
  | bool truth => cases truth <;> exact ⟨_, _, rfl, by decide, by decide⟩
  | number n =>
    obtain ⟨c, tail, written, char⟩ := numberText_opens (isLegible_of_floats finite)
    refine ⟨c, tail, written, isSpace_of_isNumberChar char, ?_⟩
    rintro rfl
    exact absurd char (by decide)
  | string s => exact ⟨_, _, rfl, by decide, by decide⟩
  | array items => exact ⟨_, _, rfl, by decide, by decide⟩
  | object members => exact ⟨_, _, rfl, by decide, by decide⟩
  | foreign value => exact ⟨_, _, rfl, by decide, by decide⟩

theorem itemsText_cons (style : Style) (item next : Json) (items : List Json) :
    itemsText style (item :: next :: items) = text style item ++ style.comma ++
      itemsText style (next :: items) := by
  rw [itemsText]
  simp

theorem membersText_cons (style : Style) (key : String) (value : Json) (next : String × Json)
    (members : List (String × Json)) : membersText style ((key, value) :: next :: members) =
      stringText style.asciiOnly key ++ style.colon ++ text style value ++ style.comma ++
        membersText style (next :: members) := by
  rw [membersText]
  simp

theorem itemsText_opens (style : Style) {item : Json} {items : List Json}
    (finite : ∀ x ∈ itemFloats (item :: items), x.IsFinite) :
    ∃ c tail, itemsText style (item :: items) = c :: tail ∧ isSpace c = false ∧ c ≠ ']' := by
  rw [itemFloats, List.forall_mem_append] at finite
  obtain ⟨c, tail, written, opens⟩ := text_opens style finite.1
  cases items with
  | nil => exact ⟨c, tail, by rw [itemsText, written], opens⟩
  | cons next items => exact ⟨c, _, by rw [itemsText_cons, written]; rfl, opens⟩

theorem membersText_opens (style : Style) (member : String × Json)
    (members : List (String × Json)) :
    ∃ tail, membersText style (member :: members) = '"' :: tail := by
  cases members with
  | nil => exact ⟨_, rfl⟩
  | cons next members => exact ⟨_, by rw [membersText_cons]; rfl⟩

variable {style : Style} {fuel : Nat} {rest : List Char}

theorem readValue_stringText (s : String) (rest : List Char) :
    readValue (fuel + 1) (stringText style.asciiOnly s ++ rest) = some (string s, rest) := by
  obtain ⟨tail, written, read⟩ := readString_text style.asciiOnly s rest
  simp only [written, readValue, skipSpace_cons (show isSpace '"' = false from rfl), read,
    Option.map_some]

theorem readValue_numberText {n : Number} (legible : IsLegible n) (stops : Stops rest) :
    readValue (fuel + 1) (numberText n ++ rest) = some (number n, rest) := by
  have read := readScalar_append legible (isNumberChar_of_legible legible) stops
  obtain ⟨c, tail, written, char⟩ := numberText_opens legible
  rw [written, List.cons_append] at read ⊢
  simp only [readValue, skipSpace_cons (isSpace_of_isNumberChar char)]
  have apart (d : Char) (other : isNumberChar d = false) (cs : List Char) :
    c :: (tail ++ rest) ≠ d :: cs := by
    rintro ⟨rfl, -⟩
    exact absurd char (Bool.eq_false_iff.mp other)
  split
  · exact absurd ‹_› (apart _ rfl _)
  · exact absurd ‹_› (apart _ rfl _)
  · exact absurd ‹_› (apart _ rfl _)
  · exact read

/-- An array that has items is read as they are. -/
theorem readValue_array {c : Char} {tail : List Char} (visible : isSpace c = false)
    (opens : c ≠ ']') :
    readValue (fuel + 1) ('[' :: c :: tail) =
      (readItems fuel (c :: tail)).map fun (items, rest) => (array items, rest) := by
  rw [readValue, skipSpace_cons (by decide)]
  simp only [skipSpace_cons visible]
  split
  · rename_i closes
    exact absurd (List.cons.inj closes).1 opens
  · rfl

theorem readValue_object {c : Char} {tail : List Char} (visible : isSpace c = false)
    (opens : c ≠ '\x7d') :
    readValue (fuel + 1) ('\x7b' :: c :: tail) =
      (readMembers fuel (c :: tail)).map fun (members, rest) => (object members, rest) := by
  rw [readValue, skipSpace_cons (by decide)]
  simp only [skipSpace_cons visible]
  split
  · rename_i closes
    exact absurd (List.cons.inj closes).1 opens
  · rfl

theorem readItems_last {cs : List Char} {item : Json}
    (read : readValue fuel cs = some (item, ']' :: rest)) :
    readItems (fuel + 1) cs = some ([item], rest) := by
  simp only [readItems, read, skipSpace_cons (show isSpace ']' = false from rfl)]

theorem readItems_next {cs more : List Char} {item : Json}
    (read : readValue fuel cs = some (item, ',' :: more)) :
    readItems (fuel + 1) cs = (readItems fuel more).map fun (items, rest) =>
      (item :: items, rest) := by
  simp only [readItems, read, skipSpace_cons (show isSpace ',' = false from rfl)]

section Members

variable (loose : style.IsLoose) (key : String) {cs more : List Char} {value : Json}
include loose

theorem readMembers_last (read : readValue fuel cs = some (value, '\x7d' :: rest)) :
    readMembers (fuel + 1) (stringText style.asciiOnly key ++ style.colon ++ cs) =
      some ([(key, value)], rest) := by
  obtain ⟨spaces, colon, all⟩ := loose.colon
  obtain ⟨tail, written, readKey⟩ := readString_text style.asciiOnly key (style.colon ++ cs)
  rw [List.append_assoc, written]
  simp only [readMembers, skipSpace_cons (show isSpace '"' = false from rfl), readKey, colon,
    List.cons_append,
    skipSpace_cons (show isSpace ':' = false from rfl), readValue_append all, read,
    skipSpace_cons (show isSpace '\x7d' = false from rfl)]

theorem readMembers_next (read : readValue fuel cs = some (value, ',' :: more)) :
    readMembers (fuel + 1) (stringText style.asciiOnly key ++ style.colon ++ cs) =
      (readMembers fuel more).map fun (members, rest) => ((key, value) :: members, rest) := by
  obtain ⟨spaces, colon, all⟩ := loose.colon
  obtain ⟨tail, written, readKey⟩ := readString_text style.asciiOnly key (style.colon ++ cs)
  rw [List.append_assoc, written]
  simp only [readMembers, skipSpace_cons (show isSpace '"' = false from rfl), readKey, colon,
    List.cons_append,
    skipSpace_cons (show isSpace ':' = false from rfl), readValue_append all, read,
    skipSpace_cons (show isSpace ',' = false from rfl)]

end Members

theorem stops_cons {c : Char} (stops : isNumberChar c = false) (cs : List Char) :
    Stops (c :: cs) := by
  rintro _ ⟨⟩
  exact stops

-- The induction is on the value. Each level and each item takes one from the fuel, and has a
-- character of its own.
mutual

/-- A value is read back from its text where it stops, with fuel for each of its characters. -/
theorem readValue_text (loose : style.IsLoose) : ∀ value : Json, (∀ x ∈ floats value, x.IsFinite) →
    ∀ fuel, (text style value).length ≤ fuel → ∀ rest, Stops rest →
      readValue fuel (text style value ++ rest) = some (known value, rest)
  | value, finite, 0, enough, _, _ => by
    obtain ⟨c, tail, written, -⟩ := text_opens style finite
    simp [written] at enough
  | .null, _, fuel + 1, _, rest, _ => rfl
  | .bool true, _, fuel + 1, _, rest, _ => rfl
  | .bool false, _, fuel + 1, _, rest, _ => rfl
  | .number n, finite, fuel + 1, _, rest, stops =>
    readValue_numberText (isLegible_of_floats finite) stops
  | .string s, _, fuel + 1, _, rest, _ => readValue_stringText s rest
  | .foreign value, _, fuel + 1, _, rest, _ => readValue_stringText value.shown rest
  | .array [], _, fuel + 1, _, rest, _ => rfl
  | .array (item :: items), finite, fuel + 1, enough, rest, _ => by
    obtain ⟨c, tail, written, visible, opens⟩ := itemsText_opens style finite
    have items := readItems_text loose (item :: items) (List.cons_ne_nil _ _) finite fuel
      (by simpa [text] using enough) rest
    rw [text, List.cons_append, List.cons_append, List.append_assoc, List.singleton_append]
    rw [written, List.cons_append] at items ⊢
    rw [readValue_array visible opens, items]
    rfl
  | .object [], _, fuel + 1, _, rest, _ => rfl
  | .object (member :: members), finite, fuel + 1, enough, rest, _ => by
    obtain ⟨tail, written⟩ := membersText_opens style member members
    have members := readMembers_text loose (member :: members) (List.cons_ne_nil _ _) finite fuel
      (by simpa [text] using enough) rest
    rw [text, List.cons_append, List.cons_append, List.append_assoc, List.singleton_append]
    rw [written, List.cons_append] at members ⊢
    rw [readValue_object (by decide) (by decide), members]
    rfl

theorem readItems_text (loose : style.IsLoose) : ∀ items : List Json, items ≠ [] →
    (∀ x ∈ itemFloats items, x.IsFinite) → ∀ fuel, (itemsText style items).length + 1 ≤ fuel →
    ∀ rest, readItems fuel (itemsText style items ++ ']' :: rest) = some (knownItems items, rest)
  | [], nonempty, _, _, _, _ => absurd rfl nonempty
  | _, _, _, 0, enough, _ => absurd enough (Nat.not_succ_le_zero _)
  | [item], _, finite, fuel + 1, enough, rest => by
    rw [itemFloats, itemFloats, List.append_nil] at finite
    rw [itemsText] at enough ⊢
    exact readItems_last
      (readValue_text loose item finite fuel (Nat.le_of_succ_le_succ enough) _
        (stops_cons (by decide) rest))
  | item :: next :: items, _, finite, fuel + 1, enough, rest => by
    obtain ⟨spaces, comma, all⟩ := loose.comma
    rw [itemFloats, List.forall_mem_append] at finite
    rw [itemsText_cons, comma] at enough ⊢
    simp only [List.length_append, List.length_cons] at enough
    have first := readValue_text loose item finite.1 fuel (by omega)
      (',' :: (spaces ++ (itemsText style (next :: items) ++ ']' :: rest)))
        (stops_cons (by decide) _)
    have others :=
      readItems_text loose (next :: items) (List.cons_ne_nil _ _) finite.2 fuel (by omega) rest
    simp only [List.append_assoc, List.cons_append]
    rw [readItems_next first, readItems_append all, others]
    rfl

theorem readMembers_text (loose : style.IsLoose) : ∀ members : List (String × Json), members ≠ [] →
    (∀ x ∈ memberFloats members, x.IsFinite) →
    ∀ fuel, (membersText style members).length + 1 ≤ fuel →
      ∀ rest, readMembers fuel (membersText style members ++ '\x7d' :: rest) =
        some (knownMembers members, rest)
  | [], nonempty, _, _, _, _ => absurd rfl nonempty
  | _, _, _, 0, enough, _ => absurd enough (Nat.not_succ_le_zero _)
  | [(key, value)], _, finite, fuel + 1, enough, rest => by
    rw [memberFloats, memberFloats, List.append_nil] at finite
    rw [membersText] at enough ⊢
    simp only [List.length_append] at enough
    have only := readValue_text loose value finite fuel (by omega) ('\x7d' :: rest)
      (stops_cons (by decide) rest)
    rw [List.append_assoc, readMembers_last loose key only]
    rfl
  | (key, value) :: next :: members, _, finite, fuel + 1, enough, rest => by
    obtain ⟨spaces, comma, all⟩ := loose.comma
    rw [memberFloats, List.forall_mem_append] at finite
    rw [membersText_cons, comma] at enough ⊢
    simp only [List.length_append, List.length_cons] at enough
    have first := readValue_text loose value finite.1 fuel (by omega)
      (',' :: (spaces ++ (membersText style (next :: members) ++ '\x7d' :: rest)))
        (stops_cons (by decide) _)
    have others :=
      readMembers_text loose (next :: members) (List.cons_ne_nil _ _) finite.2 fuel (by omega) rest
    rw [List.append_assoc, List.append_assoc, List.append_assoc, List.cons_append,
      List.append_assoc,
      ← List.append_assoc _ style.colon, readMembers_next loose key first,
        readMembers_append all, others]
    rfl

end

/-- A value is read back from its text, with strings in the place of what JSON does not know. -/
theorem read?_text (loose : style.IsLoose) {value : Json}
    (finite : ∀ x ∈ floats value, x.IsFinite) :
    read? (text style value) = some (known value) := by
  have read := readValue_text loose value finite (2 * (text style value).length + 2) (by omega) []
    (by simp [Stops])
  rw [List.append_nil] at read
  rw [read?, read]
  rfl

variable {pairs members : List (String × Json)}

theorem Merges.map (merges : Merges pairs members) (f : Json → Json) :
    Merges (pairs.map fun pair => (pair.1, f pair.2))
      (members.map fun member => (member.1, f member.2)) := by
  have names (entries : List (String × Json)) :
      (entries.map fun entry => (entry.1, f entry.2)).map Prod.fst = entries.map Prod.fst := by
    rw [List.map_map]
    rfl
  constructor
  · rw [names, names, merges.names]
  · intro name
    rw [← List.map_reverse, lookup_map, lookup_map, merges.values]

/-- What pairs come to is among them. -/
theorem Merges.subset (merges : Merges pairs members) : members ⊆ pairs := by
  intro member given
  have nodup : (members.map Prod.fst).Nodup := by
    rw [merges.names]
    exact eraseDups_nodup _
  have found := lookup_of_mem nodup given
  rw [merges.values] at found
  obtain ⟨before, after, split, -⟩ := List.lookup_eq_some_iff.mp found
  rw [← List.mem_reverse, split]
  simp

theorem mem_memberFloats {x : Binary64} :
    x ∈ memberFloats members ↔ ∃ member ∈ members, x ∈ floats member.2 := by
  rw [memberFloats_eq, List.mem_flatMap]

end Courier.Json

namespace Courier.Log

open Json (Merges memberFloats known)

variable {e : Entry} {timestamp message : String} {report : Option String}

/-- The line of a record is read back as one object. Its members are what the record tells by
    itself, in order, and the attributes that are written come to, with strings in the place of what
    JSON does not know. -/
theorem Entry.line_reads (tells : e.Tells timestamp message report)
    (finite : ∀ x ∈ memberFloats (e.standard timestamp message report ++ e.writtenExtras),
      x.IsFinite) :
    ∃ line members, e.text = .ok line ∧ Json.read? line = some (.object members) ∧
      Merges ((e.standard timestamp message report ++ e.writtenExtras).map fun pair =>
        (pair.1, known pair.2)) members := by
  obtain ⟨members, written, merges⟩ := tells.merges
  have among : ∀ x ∈ (Json.object members).floats, x.IsFinite := by
    intro x given
    obtain ⟨member, within, holds⟩ := Json.mem_memberFloats.mp given
    exact finite x (Json.mem_memberFloats.mpr ⟨member, merges.subset within, holds⟩)
  refine ⟨_, members.map fun member => (member.1, known member.2),
    text_eq_ok_iff.mpr ⟨members, written, rfl⟩, ?_, merges.map known⟩
  rw [Json.read?_text Json.Style.line_isLoose among, known, Json.knownMembers_eq]

/-- A warning with an attribute that is named like its level, and one that holds numbers and a value
    that JSON does not know. -/
def Entry.mixed : Entry :=
  warning "a\nb" [("level", .string "𝄞"), ("attempt", .array [.integer (-2),
    .number (.float (.finite false 6755399441055744 (-52))),
      .object [("path", .foreign (Foreign.plain "Path" "/tmp"))]])]

/-- It is read back with the attribute in the place of the level. -/
theorem Entry.line_reads_mixed : ∃ timestamp line members, mixed.text = .ok line ∧
    Json.read? line = some (.object members) ∧
    Merges ((mixed.standard timestamp "a\nb" none ++ mixed.writtenExtras).map fun pair =>
      (pair.1, known pair.2))
      members := by
  obtain ⟨timestamp, tells⟩ := warning_tells "a\nb" mixed.extras
  have finite : ∀ x ∈ memberFloats (mixed.standard timestamp "a\nb" none ++ mixed.writtenExtras),
    x.IsFinite := by
    change ∀ x ∈ [Binary64.finite false 6755399441055744 (-52)], x.IsFinite
    rw [List.forall_mem_singleton]
    exact ⟨by decide, by decide, by decide, .inl (by decide)⟩
  exact ⟨timestamp, line_reads tells finite⟩

end Courier.Log
