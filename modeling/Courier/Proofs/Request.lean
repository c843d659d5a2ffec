import Courier.Proofs.Headers
import Courier.Redirect

/-!
# Requests that are built again

A request is built again from its octets for every send and for every redirect. That keeps the
octets, and adds at most the fields that the octets, the method and the URL ask for; which of the
two fields that frame a body it then has is said by `rebuild_contains_length` and
`rebuild_contains_coding`.
-/

namespace Courier.Http

/-- The fields of a request that is built from octets, without those that come in front. -/
def Headers.framed (h : Headers) (content : Octets) : Headers :=
  if content.isEmpty then h else h.setDefault (lengthField content)

@[simp] theorem Headers.contains_framed (h : Headers) (content : Octets) (name : Octets) :
    (h.framed content).contains name =
      (h.contains name || !content.isEmpty && sameName FieldName.contentLength name) := by
  unfold framed
  cases content.isEmpty with
  | true => simp
  | false => simp [lengthField, Bool.or_comm]

/-- The names among the fields that come in front of those of a request. -/
theorem leadingFields_any (method : String) (url : Url) (h : Headers) (name : Octets) :
    (leadingFields method url h).any (sameName ·.name name) =
      (!(h.contains FieldName.host || url.host.isEmpty) && sameName FieldName.host name
        || !(h.contains FieldName.contentLength || h.contains FieldName.transferEncoding
              || !bodyMethods.contains method) && sameName FieldName.contentLength name) := by
  simp only [leadingFields, List.any_append]
  congr 1
  · cases h.contains FieldName.host || url.host.isEmpty <;> simp
  · cases h.contains FieldName.contentLength || h.contains FieldName.transferEncoding
      || !bodyMethods.contains method <;> simp

theorem leadingFields_named (method : String) (url : Url) (h : Headers) {name : Octets}
    (host : sameName FieldName.host name = false)
    (length : sameName FieldName.contentLength name = false) :
    (leadingFields method url h).filter (sameName ·.name name) = [] := by
  have none := leadingFields_any method url h name
  simpa [host, length] using none

theorem leadingFields_named_host (method : String) (url : Url) (h : Headers) :
    (leadingFields method url h).filter (sameName ·.name FieldName.host) =
      if h.contains FieldName.host || url.host.isEmpty then []
      else [⟨FieldName.host, Utf8.encode url.hostPort⟩] := by
  have length : sameName FieldName.contentLength FieldName.host = false := by decide
  simp only [leadingFields, List.filter_append]
  cases h.contains FieldName.host || url.host.isEmpty <;>
    cases h.contains FieldName.contentLength || h.contains FieldName.transferEncoding
      || !bodyMethods.contains method <;> simp [length]

theorem Headers.framed_named (h : Headers) (content : Octets) {name : Octets}
    (length : sameName FieldName.contentLength name = false) :
    (h.framed content).named name = h.named name := by
  unfold framed
  split
  · rfl
  · exact named_setDefault length

namespace Request

@[simp] theorem read_headers (r : Request) : r.read.headers = r.headers := rfl
@[simp] theorem read_content (r : Request) : r.read.content = r.content := rfl

variable (r : Request) (url : Url) (h : Headers)

@[simp] theorem rebuild_url : (r.rebuild url h).url = url := rfl
@[simp] theorem rebuild_content : (r.rebuild url h).content = r.content := rfl

theorem rebuild_headers :
    (r.rebuild url h).headers =
      ⟨leadingFields (Text.upper r.method) url (h.framed r.content)
        ++ (h.framed r.content).fields⟩ := by
  have framing : (Body.octets r.content).fields.foldl Headers.addFraming h =
    h.framed r.content := by
    simp only [Body.fields, Headers.framed]
    cases r.content.isEmpty with
    | true => rfl
    | false =>
      have differ : sameName FieldName.contentLength FieldName.transferEncoding = false := by decide
      simp [Headers.addFraming, lengthField, differ]
  simp only [rebuild, create, framing]

/-- A request that is built again has a length if it had one, if it has octets, or if its method
    asks for a length and no coding stands in its place. -/
theorem rebuild_contains_length :
    (r.rebuild url h).headers.contains FieldName.contentLength =
      (h.contains FieldName.contentLength || !r.content.isEmpty
        || !h.contains FieldName.transferEncoding
          && bodyMethods.contains (Text.upper r.method)) := by
  have host : sameName FieldName.host FieldName.contentLength = false := by decide
  have coding : sameName FieldName.contentLength FieldName.transferEncoding = false := by decide
  rw [rebuild_headers, Headers.contains_append, leadingFields_any]
  simp only [Headers.contains_framed, host, coding, sameName_self, Bool.and_false, Bool.and_true,
    Bool.or_false, Bool.false_or]
  cases h.contains FieldName.contentLength <;> cases r.content.isEmpty <;>
    cases h.contains FieldName.transferEncoding <;> simp

/-- A request that is built again has a coding exactly if it had one. -/
theorem rebuild_contains_coding :
    (r.rebuild url h).headers.contains FieldName.transferEncoding =
      h.contains FieldName.transferEncoding := by
  have host : sameName FieldName.host FieldName.transferEncoding = false := by decide
  have length : sameName FieldName.contentLength FieldName.transferEncoding = false := by decide
  rw [rebuild_headers, Headers.contains_append, leadingFields_any]
  simp only [Headers.contains_framed, host, length, Bool.and_false, Bool.or_false, Bool.false_or]

/-- Building a request again changes nothing about the fields of names that it does not add. -/
theorem rebuild_named {name : Octets} (host : sameName FieldName.host name = false)
    (length : sameName FieldName.contentLength name = false) :
    (r.rebuild url h).headers.named name = h.named name := by
  rw [rebuild_headers, Headers.named_append, leadingFields_named _ _ _ host length, List.nil_append,
    Headers.framed_named h _ length]

/-- A request that is built again has the hosts it had, or that of its URL. -/
theorem rebuild_named_host :
    (r.rebuild url h).headers.named FieldName.host =
      if h.contains FieldName.host || url.host.isEmpty then h.named FieldName.host
      else [⟨FieldName.host, Utf8.encode url.hostPort⟩] := by
  have length : sameName FieldName.contentLength FieldName.host = false := by decide
  rw [rebuild_headers, Headers.named_append, leadingFields_named_host,
    Headers.framed_named h _ length, Headers.contains_framed, length, Bool.and_false, Bool.or_false]
  cases present : h.contains FieldName.host with
  | true => simp
  | false => cases url.host.isEmpty <;> simp [Headers.named_eq_nil present]

end Request

end Courier.Http

namespace Courier.Redirect

variable (request : Http.Request) (url : Url)

@[simp] theorem followUp_buffered : (followUp request url).buffered = true := rfl

end Courier.Redirect
