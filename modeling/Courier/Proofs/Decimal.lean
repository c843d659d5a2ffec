import Courier.Json.Print
import Courier.Json.Read
import Mathlib.Algebra.Group.Nat.Defs
import Mathlib.Data.List.Basic
import Mathlib.Data.List.TakeWhile

/-!
# The texts of numbers

An integer is written in decimal digits, with a minus sign if it is negative (`toList_toString`),
and a finite floating-point number in digits, signs, a point and the letter of an exponent
(`Binary64.isNumberChar_of_mem_text`).
-/

namespace Courier

theorem isDigit_of_mem_toDigits {n : Nat} : ∀ c ∈ Nat.toDigits 10 n, c.isDigit = true :=
  fun _ member => Nat.isDigit_of_mem_toDigits (by decide) (by decide) member

theorem toList_toString (n : Int) :
    (toString n).toList =
      if 0 ≤ n then Nat.toDigits 10 n.toNat else '-' :: Nat.toDigits 10 (-n).toNat := by
  rw [Int.toString_eq_repr, Int.repr_eq_if]
  split
  · rw [Nat.repr_eq_ofList_toDigits, String.toList_ofList]
  · rw [Nat.repr_eq_ofList_toDigits, String.toList_append, String.toList_ofList]
    simp

theorem mem_toString {n : Int} : ∀ c ∈ (toString n).toList, c.isDigit = true ∨ c = '-' := by
  have digits (n : Nat) : ∀ c ∈ Nat.toDigits 10 n, c.isDigit = true ∨ c = '-' :=
    fun c member => .inl (isDigit_of_mem_toDigits c member)
  rw [toList_toString]
  split
  · exact digits _
  · rw [List.forall_mem_cons]
    exact ⟨.inr rfl, digits _⟩

/-- No zero is in front of the digits of a positive number. -/
theorem toDigits_head {n : Nat} (positive : 0 < n) : (Nat.toDigits 10 n).head? ≠ some '0' := by
  induction n using Nat.strongRecOn with
  | _ n ih =>
    rw [Nat.toDigits_eq_if (by decide)]
    split
    · rename_i small
      exact (by decide : ∀ d < 10, 0 < d → [d.digitChar].head? ≠ some '0') n small positive
    · rw [List.head?_append_of_ne_nil _ Nat.toDigits_ne_nil]
      exact ih (n / 10) (by omega) (by omega)

namespace Binary64

theorem digitsValue?_of_isDigit {cs : List Char} (some : cs ≠ [])
    (digits : ∀ c ∈ cs, c.isDigit = true) :
    digitsValue? cs = Option.some (Nat.ofDigitChars 10 cs 0) := by
  have plain : cs.any (fun c => !c.isDigit) = false := by
    rw [List.any_eq_false]
    intro c member
    simp [digits c member]
  rw [digitsValue?, if_neg (by simp [some, plain]), Nat.ofDigitChars_eq_foldl]

theorem digitsValue?_toDigits (n : Nat) : digitsValue? (Nat.toDigits 10 n) = some n := by
  rw [digitsValue?_of_isDigit Nat.toDigits_ne_nil isDigit_of_mem_toDigits,
    Nat.ofDigitChars_ten_toDigits]

end Binary64

namespace Json

theorem isWhole_toDigits (n : Nat) : isWhole (Nat.toDigits 10 n) = true := by
  rcases Nat.eq_zero_or_pos n with rfl | positive
  · rfl
  · simp [isWhole, toDigits_head positive, Nat.toDigits_ne_nil]

/-- Digits that can be the whole part of a number are a number. -/
theorem isNumeral_of_whole {digits : List Char} (whole : isWhole digits = true)
    (given : ∀ c ∈ digits, c.isDigit = true) : isNumeral digits = true := by
  rw [isNumeral, List.takeWhile_eq_self_iff.mpr given, List.dropWhile_eq_nil_iff.mpr given, whole]
  rfl

theorem isNumberChar_of_isDigit {c : Char} (digit : c.isDigit = true) : isNumberChar c = true := by
  simp [isNumberChar, digit]

/-- A character of a number is a digit or one of five others. -/
theorem isNumberChar_iff {c : Char} :
    isNumberChar c = true ↔ c.isDigit = true ∨ c ∈ ['-', '+', '.', 'e', 'E'] := by
  simp [isNumberChar, or_assoc]

end Json

namespace Binary64

open Json (isNumberChar isNumberChar_of_isDigit)

theorem isDigit_of_mem_significant {n : Nat} : ∀ c ∈ significant n, c.isDigit = true := by
  intro c member
  rw [significant, List.mem_reverse] at member
  have kept := (List.dropWhile_sublist _).subset member
  exact isDigit_of_mem_toDigits c (List.mem_reverse.mp kept)

theorem isNumberChar_of_mem_exponentText {e : Int} :
    ∀ c ∈ exponentText e, isNumberChar c = true := by
  have digits : ∀ c ∈ Nat.toDigits 10 e.natAbs, isNumberChar c = true :=
    fun c member => isNumberChar_of_isDigit (isDigit_of_mem_toDigits c member)
  unfold exponentText
  simp only [List.forall_mem_cons]
  refine ⟨by decide, ?_, ?_⟩
  · split <;> decide
  · split
    · rw [List.forall_mem_cons]
      exact ⟨by decide, digits⟩
    · exact digits

theorem isNumberChar_of_mem_layout {digits : List Char} (given : ∀ c ∈ digits, c.isDigit = true)
    (p : Int) :
    ∀ c ∈ layout digits p, isNumberChar c = true := by
  have given : ∀ c ∈ digits, isNumberChar c = true :=
    fun c member => isNumberChar_of_isDigit (given c member)
  have zeros (n : Nat) : ∀ c ∈ List.replicate n '0', isNumberChar c = true := by
    intro c member
    rw [List.eq_of_mem_replicate member]
    decide
  have point : ∀ c ∈ ['.', '0'], isNumberChar c = true := List.all_eq_true.mp rfl
  unfold layout
  split
  · split
    · simp only [List.cons_append, List.forall_mem_cons, List.forall_mem_append]
      exact ⟨by decide, by decide, zeros _, given⟩
    · split
      · simp only [List.forall_mem_append]
        exact ⟨⟨given, zeros _⟩, point⟩
      · simp only [List.forall_mem_append, List.forall_mem_cons]
        exact ⟨fun c member => given c (List.mem_of_mem_take member), by decide,
          fun c member => given c (List.mem_of_mem_drop member)⟩
  · split
    · exact isNumberChar_of_mem_exponentText
    · simp only [List.forall_mem_cons] at given ⊢
      exact ⟨given.1, isNumberChar_of_mem_exponentText⟩
    · simp only [List.cons_append, List.forall_mem_append, List.forall_mem_cons] at given ⊢
      exact ⟨given.1, by decide, given.2, isNumberChar_of_mem_exponentText⟩

/-- The text of a finite number has nothing but the characters of numbers. -/
theorem isNumberChar_of_mem_text {negative : Bool} {m : Nat} {e : Int} :
    ∀ c ∈ (finite negative m e).text, isNumberChar c = true := by
  unfold text
  simp only [List.forall_mem_append]
  constructor
  · split
    · exact List.all_eq_true.mp rfl
    · exact List.all_eq_true.mp rfl
  · split
    · exact List.all_eq_true.mp rfl
    · exact isNumberChar_of_mem_layout isDigit_of_mem_significant _

end Binary64

end Courier
