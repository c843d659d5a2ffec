import Courier.Http.Headers
import Mathlib.Data.List.TakeDrop
import Mathlib.Data.List.TakeWhile

/-!
# Which names header fields have

Setting, adding and erasing a field changes nothing about the fields of other names: they stay the
same fields in the same order. What is in a list of fields under a name follows from that.
-/

namespace Courier.Http

@[simp] theorem sameName_self (a : Octets) : sameName a a = true := by
  simp only [sameName, beq_self_eq_true]

theorem sameName_comm (a b : Octets) : sameName a b = sameName b a := by
  simp only [sameName]
  exact BEq.comm

/-- Names that are the same are the same as the same ones. -/
theorem sameName_congr {a b : Octets} (h : sameName a b = true) (c : Octets) :
    sameName a c = sameName b c := by
  simp only [sameName, beq_iff_eq] at h
  simp only [sameName, h]

namespace Headers

/-- The fields of other names than this one. -/
def others (h : Headers) (name : Octets) : List Field := h.fields.filter (!sameName ·.name name)

theorem others_set (h : Headers) (field : Field) :
    (h.set field).others field.name = h.others field.name := by
  unfold set others
  rw [List.span_eq_takeWhile_dropWhile]
  have parts := List.takeWhile_append_dropWhile (p := (!sameName ·.name field.name)) (l := h.fields)
  cases found : h.fields.dropWhile (!sameName ·.name field.name) with
  | nil =>
    rw [found, List.append_nil] at parts
    simp [parts]
  | cons first after =>
    have same : sameName first.name field.name = true := by
      have stopped := List.head?_dropWhile_not (!sameName ·.name field.name) h.fields
      simpa [found] using stopped
    rw [found] at parts
    conv => rhs; rw [← parts]
    simp [List.filter_append, same]

theorem others_erase (h : Headers) (name : Octets) :
    (h.erase name).others name = h.others name := by
  simp [erase, others]

/-- The fields of a name. -/
def named (h : Headers) (name : Octets) : List Field := h.fields.filter (sameName ·.name name)

theorem contains_eq_named (h : Headers) (name : Octets) :
    h.contains name = !(h.named name).isEmpty := by
  rw [Bool.eq_iff_iff]
  simp [contains, named]

/-- The fields of a name that differs from another one are among those of other names than that
    one. -/
theorem named_of_others_eq {h h' : Headers} {other : Octets} (eq : h.others other = h'.others other)
    {name : Octets} (differ : sameName other name = false) : h.named name = h'.named name := by
  have among : ∀ h : Headers, h.named name = (h.others other).filter (sameName ·.name name) := by
    intro h
    simp only [named, others, List.filter_filter]
    congr 1
    funext field
    cases same : sameName field.name other with
    | false => simp
    | true => simp [sameName_congr same, differ]
  rw [among h, among h', eq]

theorem contains_of_others_eq {h h' : Headers} {other : Octets}
    (eq : h.others other = h'.others other) {name : Octets} (differ : sameName other name = false) :
    h.contains name = h'.contains name := by
  rw [contains_eq_named, contains_eq_named, named_of_others_eq eq differ]

theorem contains_congr (h : Headers) {a b : Octets} (same : sameName a b = true) :
    h.contains a = h.contains b := by
  simp only [contains]
  congr 1
  funext field
  rw [sameName_comm field.name a, sameName_congr same, sameName_comm b]

theorem contains_set_self (h : Headers) (field : Field) :
    (h.set field).contains field.name = true := by
  unfold set contains
  split <;> simp

@[simp] theorem contains_set (h : Headers) (field : Field) (name : Octets) :
    (h.set field).contains name = (sameName field.name name || h.contains name) := by
  cases same : sameName field.name name with
  | true => simp [← contains_congr _ same, contains_set_self]
  | false => simp [contains_of_others_eq (others_set h field) same]

@[simp] theorem contains_setDefault (h : Headers) (field : Field) (name : Octets) :
    (h.setDefault field).contains name = (sameName field.name name || h.contains name) := by
  unfold setDefault
  cases present : h.contains field.name with
  | true =>
    cases same : sameName field.name name with
    | true => simp [← contains_congr h same, present]
    | false => simp
  | false => simp [contains, Bool.or_comm]

@[simp] theorem contains_erase (h : Headers) (erased name : Octets) :
    (h.erase erased).contains name = (!sameName erased name && h.contains name) := by
  cases same : sameName erased name with
  | false => simp [contains_of_others_eq (others_erase h erased) same]
  | true =>
    rw [← contains_congr _ same]
    simp [contains, erase]

theorem contains_append (first : List Field) (h : Headers) (name : Octets) :
    (Headers.mk (first ++ h.fields)).contains name =
      (first.any (sameName ·.name name) || h.contains name) := by
  simp [contains]

/-- A field of a name that is not there comes last. -/
theorem set_of_absent {h : Headers} {field : Field} (absent : h.contains field.name = false) :
    h.set field = ⟨h.fields ++ [field]⟩ := by
  have all : ∀ f ∈ h.fields, (!sameName f.name field.name) = true := by
    simpa [contains] using absent
  simp only [set, List.span_eq_takeWhile_dropWhile, List.takeWhile_eq_self_iff.mpr all,
    List.dropWhile_eq_nil_iff.mpr all]

/-! ## The fields of a name -/

theorem named_eq_nil {h : Headers} {name : Octets} (absent : h.contains name = false) :
    h.named name = [] := by
  simpa [contains_eq_named] using absent

theorem named_set_self (h : Headers) (field : Field) :
    (h.set field).named field.name = [field] := by
  unfold set named
  rw [List.span_eq_takeWhile_dropWhile]
  have before : (h.fields.takeWhile (!sameName ·.name field.name)).filter
      (sameName ·.name field.name) = [] := by
    apply List.filter_eq_nil_iff.mpr
    intro f member
    simpa using List.mem_takeWhile_imp member
  cases h.fields.dropWhile (!sameName ·.name field.name) with
  | nil => simp [List.filter_append, before]
  | cons first after => simp [List.filter_append, before]

theorem named_set {h : Headers} {field : Field} {name : Octets}
    (differ : sameName field.name name = false) : (h.set field).named name = h.named name :=
  named_of_others_eq (others_set h field) differ

theorem named_erase {h : Headers} {erased name : Octets} (differ : sameName erased name = false) :
    (h.erase erased).named name = h.named name :=
  named_of_others_eq (others_erase h erased) differ

theorem named_setDefault {h : Headers} {field : Field} {name : Octets}
    (differ : sameName field.name name = false) :
    (h.setDefault field).named name = h.named name := by
  unfold setDefault named
  split
  · rfl
  · simp [List.filter_append, differ]

theorem named_append (first : List Field) (h : Headers) (name : Octets) :
    (Headers.mk (first ++ h.fields)).named name =
      first.filter (sameName ·.name name) ++ h.named name := by
  simp [named, List.filter_append]

end Headers

end Courier.Http
