import Courier.Proofs.Run
import Courier.Proofs.Start

/-!
# How bodies are framed

The end of a body is told by a length or by a transfer coding, and a message that tells both is not
sound. Every send carries the whole body. It carries both fields exactly if the caller's request has
a coding and either a length or octets, for a request that is built again from octets is given their
length and keeps its coding.
-/

namespace Courier

namespace Http

/-- Whether fields tell the end of a body twice, by a length and by a coding. -/
def Headers.isTwiceFramed (h : Headers) : Bool :=
  h.contains FieldName.contentLength && h.contains FieldName.transferEncoding

/-- Whether a request tells the end of its body twice once it is built again. -/
def Request.isClashing (r : Request) : Bool :=
  r.headers.contains FieldName.transferEncoding
    && (r.headers.contains FieldName.contentLength || !r.content.isEmpty)

namespace Request

variable (r : Request) (url : Url) (h : Headers)

theorem rebuild_isTwiceFramed :
    (r.rebuild url h).headers.isTwiceFramed =
      (h.contains FieldName.transferEncoding
        && (h.contains FieldName.contentLength || !r.content.isEmpty)) := by
  rw [Headers.isTwiceFramed, rebuild_contains_length, rebuild_contains_coding]
  cases h.contains FieldName.transferEncoding <;> simp

/-- Building a request again changes nothing about whether it tells the end of its body twice the
    next time. -/
theorem rebuild_isClashing :
    (r.rebuild url h).isClashing =
      (h.contains FieldName.transferEncoding
        && (h.contains FieldName.contentLength || !r.content.isEmpty)) := by
  rw [isClashing, rebuild_contains_length, rebuild_contains_coding, rebuild_content]
  cases h.contains FieldName.transferEncoding <;> cases r.content.isEmpty <;> simp

end Request

end Http

theorem Redirect.followUp_isClashing (request : Http.Request) (url : Url) :
    (followUp request url).isClashing = request.isClashing := by
  have length : Http.sameName Http.FieldName.host Http.FieldName.contentLength = false := by decide
  have coding : Http.sameName Http.FieldName.host Http.FieldName.transferEncoding = false := by
    decide
  rw [followUp, Http.Request.rebuild_isClashing]
  simp only [Http.Headers.contains_erase, length, coding, Bool.not_false, Bool.true_and,
    Http.Request.isClashing]

theorem Exchange.onWire_isTwiceFramed (request : Http.Request) :
    (onWire request).headers.isTwiceFramed = request.headers.isTwiceFramed := by
  rw [Http.Headers.isTwiceFramed, onWire_contains _ (by decide), onWire_contains _ (by decide)]
  rfl

/-- A prepared request is framed twice exactly if it is made from a clashing one. -/
theorem Client.prepare_isTwiceFramed [Codecs] {c : Client} {request outgoing : Http.Request}
    (prepared : (c.prepare request).value.2 = .ok outgoing) :
    outgoing.headers.isTwiceFramed = request.isClashing := by
  obtain ⟨state, rfl⟩ := c.prepare_eq_ok request prepared
  rw [Http.Request.rebuild_isTwiceFramed,
    c.outgoingFields_contains request state (by decide) (by decide),
    c.outgoingFields_contains request state (by decide) (by decide)]
  rfl

theorem Client.prepare_content [Codecs] {c : Client} {request outgoing : Http.Request}
    (prepared : (c.prepare request).value.2 = .ok outgoing) :
    outgoing.content = request.content := by
  obtain ⟨state, rfl⟩ := c.prepare_eq_ok request prepared
  rfl

namespace Call

variable [Codecs] {script : Exchange.Script}

/-- The current request of every send has the octets of the first one, and clashes if that does. -/
theorem sendings_framing (fuel : Nat) (call : Call) :
    ∀ s ∈ sendings script fuel call, s.call.current.content = call.current.content ∧
      s.call.current.isClashing = call.current.isClashing := by
  apply sendings_current (P := fun request => request.content = call.current.content ∧
    request.isClashing = call.current.isClashing)
  · rintro request url ⟨content, clashing⟩
    exact ⟨content, by rw [Redirect.followUp_isClashing, clashing]⟩
  · exact ⟨rfl, rfl⟩

end Call

/-- Whatever failures, answers and redirects a call meets, every request that reaches the transport
    has all the octets of the caller's one, and is framed twice exactly if that one has a coding and
    either a length or octets. -/
theorem Client.execute_framing [Codecs] (c : Client) (request : Http.Request)
    (script : Exchange.Script) :
    ∀ sent ∈ Event.requests (c.execute request script).events,
      (Exchange.onWire sent).content = request.content ∧
        ((Exchange.onWire sent).headers.isTwiceFramed = true ↔
          request.headers.contains Http.FieldName.transferEncoding = true ∧
            (request.headers.contains Http.FieldName.contentLength = true ∨
              request.content ≠ [])) := by
  intro sent member
  rw [requests_execute, List.mem_map] at member
  obtain ⟨s, made, rfl⟩ := member
  unfold sendings at made
  split at made
  · cases made
  · have prepared := Call.sendings_prepared _ _ s made
    obtain ⟨content, clashing⟩ := Call.sendings_framing _ _ s made
    rw [Exchange.onWire_content, prepare_content prepared, content, Exchange.onWire_isTwiceFramed,
      prepare_isTwiceFramed prepared, clashing]
    refine ⟨rfl, ?_⟩
    simp [Http.Request.isClashing, Call.start]

attribute [local instance] Codecs.plain

/-- A request whose body is streamed and not empty. -/
def Client.streamedRequest : Http.Request :=
  .toHost "POST" (.chunks [Utf8.ofString "a", Utf8.ofString "b"])

theorem Client.execute_framing_streamed :
    ∃ created, create .default none = .ok created ∧
      ∃ sent ∈ Event.requests (created.value.execute streamedRequest
          (.ofOutcomes 0 fun _ => .status 200)).events,
        (Exchange.onWire sent).content = Utf8.ofString "ab" ∧
          ((Exchange.onWire sent).headers.isTwiceFramed = true ↔
            streamedRequest.headers.contains Http.FieldName.transferEncoding = true ∧
              (streamedRequest.headers.contains Http.FieldName.contentLength = true ∨
                streamedRequest.content ≠ [])) := by
  let script : Exchange.Script := .ofOutcomes 0 fun _ => .status 200
  obtain ⟨created, built, sends⟩ : ∃ created, create .default none = .ok created ∧
      Event.requests (created.value.execute streamedRequest script).events ≠ [] :=
    ⟨_, rfl, by decide +kernel⟩
  obtain ⟨sent, member⟩ := List.exists_mem_of_ne_nil _ sends
  exact ⟨created, built, sent, member,
    execute_framing created.value streamedRequest script sent member⟩

/-- A streamed body that the caller does not frame twice is framed twice on the wire. -/
theorem Client.streamed_framed_twice :
    ∃ created, create .default none = .ok created ∧
      streamedRequest.headers.isTwiceFramed = false ∧
        ∃ sent ∈ Event.requests (created.value.execute streamedRequest
            (.ofOutcomes 0 fun _ => .status 200)).events,
          (Exchange.onWire sent).headers.isTwiceFramed = true :=
  ⟨_, rfl, by decide +kernel, by decide +kernel⟩

end Courier
