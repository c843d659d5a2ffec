import Courier.Fault.Basic
import Courier.Text.Case

/-!
# Codecs that come from outside

A host name outside ASCII travels in an ASCII form, and a body may travel in content codings. The
tables for the names and the algorithms of the codings belong to packages that the library builds
on. `Codecs` is what it asks of them: the functions that it calls, and what it relies on about them.

`Codecs.plain` has no tables. It tells a malformed ASCII form from one that it cannot read, and
knows no content coding.
-/

namespace Courier

/-- Why an ASCII form stands for no name: the name of the error, and its wording. -/
structure NameError where
  kind : String
  message : String
  deriving DecidableEq, Repr, Inhabited

/-- Whether a character may stand in the ASCII form of a name. -/
def isFormChar (c : Char) : Bool := c.isLower || c.isDigit || c == '-' || c == '.'

/-- What an ASCII form starts with whose first label stands for another one. -/
def formPrefix : List Char := ['x', 'n', '-', '-']

/-- The coding of host names and of contents. -/
class Codecs where
  /-- The ASCII form of a name in lower case, if it has one. -/
  asciiForm? : List Char → Option (List Char)
  /-- The name that an ASCII form stands for. -/
  nameOf : List Char → Except NameError (List Char)
  /-- What undoes a content coding, if the coding is known; it has a fault for contents that were
      not coded this way. -/
  decoder? : List Char → Option (Octets → Except Fault Octets)
  asciiForm_form {name form : List Char} (coded : asciiForm? name = some form) :
    form ≠ [] ∧ ∀ c ∈ form, isFormChar c = true
  nameOf_wide {form name : List Char} (marked : formPrefix <+: form)
    (decoded : nameOf form = .ok name) :
    (∃ c ∈ name, 128 ≤ c.toNat) ∧ ∀ c ∈ name, 128 ≤ c.toNat ∨ isFormChar c = true
  /-- The form of a name that has been decoded stands for it again. -/
  nameOf_asciiForm {form name form' : List Char} (marked : formPrefix <+: form)
    (decoded : nameOf form = .ok name)
    (coded : asciiForm? (Text.lower (String.ofList name)).toList = some form') :
    formPrefix <+: form' ∧ nameOf form' = .ok (Text.lower (String.ofList name)).toList
  decoder_fault {coding : List Char} {decode : Octets → Except Fault Octets} {content : Octets}
    {fault : Fault} (known : decoder? coding = some decode)
    (failed : decode content = .error fault) :
    fault.category = .decoding

namespace Codecs

/-- What is wrong with an ASCII form, as far as it can be told without tables. -/
def formError (form : List Char) : NameError :=
  let coded := (form.drop formPrefix.length).takeWhile (· ≠ '.')
  ⟨"IDNAError",
    if coded.isEmpty then "Malformed A-label, no Punycode eligible content found"
    else if coded.getLast? = some '-' then "A-label must not end with a hyphen"
    else "Invalid A-label"⟩

/-- The codecs of nothing but ASCII. -/
@[reducible] def plain : Codecs where
  asciiForm? _ := none
  nameOf form := .error (formError form)
  decoder? _ := none
  asciiForm_form coded := by cases coded
  nameOf_wide _ decoded := by cases decoded
  nameOf_asciiForm _ decoded := by cases decoded
  decoder_fault known := by cases known

end Codecs

end Courier
