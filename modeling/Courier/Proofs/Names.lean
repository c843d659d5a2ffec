import Courier.Auth.Scope
import Courier.Proofs.Results

/-!
# URLs and the names of their hosts

A URL has a scope exactly if its host stands for a name. `Url.scope` is that scope, and for the
other URLs the scope of the host as it is, so that it can be spoken of without asking first
(`Scope.ofUrl_cases`).
-/

namespace Courier

variable [Codecs] {u : Url}

/-- Whether the host of a URL stands for a name. -/
def Url.IsNamed (u : Url) : Prop := ∃ name, u.name = .ok name

/-- The scope of a URL; a host that stands for no name goes by itself. -/
def Url.scope (u : Url) : Scope := .named u u.hostName

theorem Url.IsNamed.name_ne_error (named : u.IsNamed) {error : NameError} :
    u.name ≠ .error error := by
  obtain ⟨name, named⟩ := named
  rw [named]
  exact nofun

theorem Url.hostName_of_name {name : List Char} (named : u.name = .ok name) :
    u.hostName = name := by
  simp [hostName, named, Except.toOption]

/-- The host of a URL stands for a name, or its error is that of the scope. -/
theorem Scope.ofUrl_cases (u : Url) :
    (∃ error, u.name = .error error ∧ ofUrl u = .error error) ∨
      u.IsNamed ∧ ofUrl u = .ok u.scope := by
  unfold ofUrl Url.IsNamed Url.scope
  cases named : u.name with
  | error error => exact .inl ⟨error, rfl, rfl⟩
  | ok name => exact .inr ⟨⟨name, rfl⟩, by rw [Url.hostName_of_name named]; rfl⟩

theorem Scope.ofUrl_of_named (named : u.IsNamed) : ofUrl u = .ok u.scope := by
  rcases ofUrl_cases u with ⟨error, unnamed, -⟩ | ⟨-, scope⟩
  · exact absurd unnamed named.name_ne_error
  · exact scope

theorem Scope.ofUrl_eq_error {error : NameError} :
    ofUrl u = .error error ↔ u.name = .error error := by
  unfold ofUrl
  cases u.name <;> simp [Except.map]

/-- The codecs of one name outside ASCII. -/
@[reducible] def Codecs.accented : Codecs where
  asciiForm? name := if name = "é.com".toList then some "xn--9ca.com".toList else none
  nameOf form := if form = "xn--9ca.com".toList then .ok "é.com".toList else .error (formError form)
  decoder? := Codecs.plain.decoder?
  asciiForm_form {name form} coded := by
    split at coded <;> cases coded
    exact ⟨by decide, List.all_eq_true.mp rfl⟩
  nameOf_wide {form name} _ decoded := by
    split at decoded <;> cases decoded
    have all : "é.com".toList.all (fun c => 128 ≤ c.toNat || isFormChar c) = true := rfl
    exact ⟨⟨'é', List.mem_cons_self, by decide⟩, by simpa using List.all_eq_true.mp all⟩
  nameOf_asciiForm {form name form'} _ decoded coded := by
    split at decoded <;> cases decoded
    have lower : (Text.lower (String.ofList "é.com".toList)).toList = "é.com".toList := by
      decide +kernel
    rw [lower] at coded ⊢
    cases coded
    exact ⟨by decide, if_pos rfl⟩
  decoder_fault := Codecs.plain.decoder_fault

end Courier
