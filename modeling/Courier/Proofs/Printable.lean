import Courier.Log.Line
import Courier.Proofs.Decimal
import Courier.Proofs.Number
import Mathlib.Data.Bool.AllAny

/-!
# Log lines in printable ASCII

Whatever a value holds, its text in the style of log lines has no character but those of printable
ASCII (`Json.text_printable`): strings and keys are escaped, and so are the texts of values that
JSON does not know. So a record is written on one line, whatever it tells of
(`Log.Entry.line_printable`).
-/

namespace Courier

/-- Whether a character is one of printable ASCII. -/
abbrev Text.Printable (c : Char) : Prop := 0x20 ≤ c.toNat ∧ c.toNat < 0x7f

open Text (Printable)

namespace Json

theorem printable_of_all {cs : List Char} (all : cs.all (fun c => decide (Printable c)) = true) :
    ∀ c ∈ cs, Printable c := List.all_iff_forall_prop.mp all

theorem printable_of_isNumberChar {c : Char} (char : isNumberChar c = true) : Printable c := by
  rcases isNumberChar_iff.mp char with digit | other
  · obtain ⟨above, below⟩ : 48 ≤ c.toNat ∧ c.toNat ≤ 57 := Char.isDigit_iff_toNat.mp digit
    exact ⟨by omega, by omega⟩
  · exact printable_of_all rfl c other

theorem hexDigits_printable (width n : Nat) : ∀ c ∈ Text.hexDigits width n, Printable c := by
  induction width generalizing n with
  | zero => simp [Text.hexDigits]
  | succ width ih =>
    have last : Printable (Text.hexDigit (n % 16)) :=
      (by decide : ∀ d < 16, Printable (Text.hexDigit d)) _ (Nat.mod_lt _ (by decide))
    simp only [Text.hexDigits, List.forall_mem_append, List.forall_mem_singleton]
    exact ⟨ih _, last⟩

theorem unitEscape_printable (n : Nat) : ∀ c ∈ unitEscape n, Printable c := by
  simp only [unitEscape, List.forall_mem_cons]
  exact ⟨by decide, by decide, hexDigits_printable 4 n⟩

theorem codeEscape_printable (c : Char) : ∀ d ∈ codeEscape c, Printable d := by
  unfold codeEscape
  simp only
  split
  · exact unitEscape_printable _
  · simp only [List.forall_mem_append]
    exact ⟨unitEscape_printable _, unitEscape_printable _⟩

/-- A character is written by a letter that stands for it, by its code, or as it is. -/
theorem escapeChar_cases (asciiOnly : Bool) (c : Char) :
    (∃ letter ∈ ['"', '\\', 'n', 'r', 't', 'b', 'f'],
      escapeChar asciiOnly c = ['\\', letter] ∧ escaped? letter = some c) ∨
    escapeChar asciiOnly c = codeEscape c ∨
    (escapeChar asciiOnly c = [c] ∧ c ≠ '"' ∧ c ≠ '\\' ∧ 0x20 ≤ c.toNat ∧
      (asciiOnly = true → c.toNat < 0x7f)) := by
  generalize written : escapeChar asciiOnly c = cs
  unfold escapeChar at written
  split at written
  · rename_i own
    exact .inl ⟨'"', by decide, written.symm, by rw [own]; rfl⟩
  split at written
  · rename_i own
    exact .inl ⟨'\\', by decide, written.symm, by rw [own]; rfl⟩
  split at written
  · rename_i own
    exact .inl ⟨'n', by decide, written.symm, by rw [own]; rfl⟩
  split at written
  · rename_i own
    exact .inl ⟨'r', by decide, written.symm, by rw [own]; rfl⟩
  split at written
  · rename_i own
    exact .inl ⟨'t', by decide, written.symm, by rw [own]; rfl⟩
  split at written
  · rename_i own
    exact .inl ⟨'b', by decide, written.symm, by rw [own]; rfl⟩
  split at written
  · rename_i own
    exact .inl ⟨'f', by decide, written.symm, by rw [own]; rfl⟩
  split at written
  · exact .inr (.inl written.symm)
  split at written
  · exact .inr (.inl written.symm)
  · rename_i quote backslash _ _ _ _ _ control wide
    refine .inr (.inr ⟨written.symm, quote, backslash, Nat.not_lt.mp control, ?_⟩)
    rintro rfl
    simpa using wide

theorem escapeChar_printable (c : Char) : ∀ d ∈ escapeChar true c, Printable d := by
  rcases escapeChar_cases true c with ⟨letter, among, written, -⟩ | written | ⟨written,
    -, -, low, high⟩
  · rw [written]
    simp only [List.forall_mem_cons]
    exact ⟨by decide, printable_of_all rfl letter among, by simp⟩
  · rw [written]
    exact codeEscape_printable c
  · rw [written, List.forall_mem_singleton]
    exact ⟨low, high rfl⟩

theorem stringText_printable (s : String) : ∀ c ∈ stringText true s, Printable c := by
  unfold stringText
  simp only [List.cons_append, List.forall_mem_cons, List.forall_mem_append]
  refine ⟨by decide, ?_, by decide, List.forall_mem_nil _⟩
  intro c member
  obtain ⟨d, -, written⟩ := List.mem_flatMap.mp member
  exact escapeChar_printable d c written

theorem numberText_printable (n : Number) : ∀ c ∈ numberText n, Printable c := by
  cases n with
  | integer n =>
    intro c member
    rcases mem_toString c member with digit | rfl
    · exact printable_of_isNumberChar (isNumberChar_of_isDigit digit)
    · decide
  | float x =>
    cases x with
    | nan => exact printable_of_all rfl
    | infinite negative =>
      cases negative with
      | true => exact printable_of_all rfl
      | false => exact printable_of_all rfl
    | finite negative m e =>
      exact fun c member => printable_of_isNumberChar (Binary64.isNumberChar_of_mem_text c member)

mutual

/-- The text of a value in the style of log lines is printable. -/
theorem text_printable : ∀ v : Json, ∀ c ∈ v.text .line, Printable c
  | .null => printable_of_all rfl
  | .bool true => printable_of_all rfl
  | .bool false => printable_of_all rfl
  | .number n => numberText_printable n
  | .string s => stringText_printable s
  | .foreign value => stringText_printable value.shown
  | .array items => by
    simp only [text, List.cons_append, List.forall_mem_cons, List.forall_mem_append]
    exact ⟨by decide, itemsText_printable items, by decide, List.forall_mem_nil _⟩
  | .object members => by
    simp only [text, List.cons_append, List.forall_mem_cons, List.forall_mem_append]
    exact ⟨by decide, membersText_printable members, by decide, List.forall_mem_nil _⟩

theorem itemsText_printable : ∀ items : List Json, ∀ c ∈ itemsText .line items, Printable c
  | [] => by simp [itemsText]
  | [item] => text_printable item
  | item :: next :: rest => by
    simp only [itemsText, List.forall_mem_append]
    exact ⟨⟨text_printable item, printable_of_all rfl⟩, itemsText_printable (next :: rest)⟩

theorem membersText_printable :
    ∀ members : List (String × Json), ∀ c ∈ membersText .line members, Printable c
  | [] => by simp [membersText]
  | [(key, value)] => by
    simp only [membersText, List.forall_mem_append]
    exact ⟨⟨stringText_printable key, printable_of_all rfl⟩, text_printable value⟩
  | (key, value) :: next :: rest => by
    simp only [membersText, List.forall_mem_append]
    exact ⟨⟨⟨⟨stringText_printable key, printable_of_all rfl⟩, text_printable value⟩,
      printable_of_all rfl⟩, membersText_printable (next :: rest)⟩

end

end Json

namespace Log

theorem Entry.text_eq_ok_iff {e : Entry} {line : List Char} :
    e.text = .ok line ↔ ∃ members, e.members = .ok members ∧
      (Json.object members).text .line = line := by
  unfold text
  cases e.members <;> simp [bind, Except.bind, pure, Except.pure]

/-- Every character of the line of a record is printable. -/
theorem Entry.line_printable {e : Entry} {line : List Char} (ok : e.text = .ok line) :
    ∀ c ∈ line, Printable c := by
  obtain ⟨members, -, rfl⟩ := text_eq_ok_iff.mp ok
  exact Json.text_printable _

/-- The record of a warning at the start of 1970, with attributes. -/
def Entry.warning (message : String) (extras : List (String × Json)) : Entry where
  time := .integer 0
  milliseconds := .integer 0
  levelName := .string "WARNING"
  logger := .string "app"
  template := .string message
  arguments := .positions []
  module := .string "m"
  function := .string "fn"
  line := .integer 7
  thread := .string "MainThread"
  attachment := none
  extras := extras

theorem Entry.warning_text (message : String) (extras : List (String × Json)) :
    ∃ line, (warning message extras).text = .ok line := ⟨_, rfl⟩

/-- A message of two lines, a key with the end of a line in it, and a line separator far inside a
    value. -/
theorem Entry.line_printable_separators :
    ∃ line, (Entry.warning "a\nb" [("k\r", .array [.object [("\u2028", .number .nan)]])]).text =
      .ok line ∧
      ∀ c ∈ line, Printable c := by
  obtain ⟨line, written⟩ :=
    Entry.warning_text "a\nb" [("k\r", .array [.object [("\u2028", .number .nan)]])]
  exact ⟨line, written, line_printable written⟩

end Log

end Courier
