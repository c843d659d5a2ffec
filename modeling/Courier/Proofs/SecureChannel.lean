import Courier.Proofs.Answers
import Courier.Proofs.Chain

/-!
# Failures of the secure channel

Sending again does not mend a TLS failure, so a fault with one anywhere behind it is to be told by
its kind, and nothing is to be sent after it (`Fault.RecognizesTls`). What is behind a fault is what
its causes and contexts lead to, in any order. A chain takes one way through that: where a fault has
a cause, its context is hidden from the chain. The recognition is right exactly for the faults with
no TLS failure behind such a hidden context, unless there is one on the chain too
(`Fault.recognizesTls_iff`).
-/

namespace Courier

/-- No policy sends again after a failure of the secure channel. -/
theorem TransportRetry.not_allows_secureChannelFailure (p : TransportRetry) (attempt : Int)
    (request : Option Http.Request) (maySent : Bool) :
    p.allows .secureChannelFailure attempt request maySent = false := by
  simp [allows, Fault.Kind.nonRetriable]

/-- A fault that the policy does not allow another attempt after ends its call. -/
theorem Client.last_of_not_allows [Codecs] {c : Client} {request : Http.Request}
    {script : Exchange.Script} {n : Nat} {s : Call.Sending}
    (here : (c.sendings request script)[n]? = some s) {fault : Fault}
    (given : (s.sent script).given = .error (.fault fault))
    (refused : c.transportRetry.allows fault.kind s.call.context.attempt (some s.call.current)
      fault.mayHaveBeenSent = false) : (c.sendings request script).length = n + 1 := by
  have policy : (s.after script).client.transportRetry = c.transportRetry :=
    ((sending_continues (List.mem_of_getElem? here)).trans
      (s.call.afterSend_continues _)).transportRetry
  have verdict : s.verdict script = (s.after script).onFault fault := by
    rw [Call.Sending.verdict, given]
    rfl
  have ended : ∃ failure, s.verdict script = .fail failure := by
    simp only [verdict, Call.onFault, policy, Call.Sending.after_attempt,
      Call.Sending.after_current, refused, Bool.false_eq_true, if_false]
    split
    · exact ⟨_, rfl⟩
    · exact ⟨_, rfl⟩
  obtain ⟨failure, failed⟩ := ended
  exact (execute_of_ended here (by rw [failed]; rfl)).2

namespace Fault

open Relation

section

variable [Codecs] (f : Fault) {p q r : Nat}

/-- The fault at one position has the one at another for its cause or for its context. -/
def Leads (p q : Nat) : Prop :=
  ∃ node, f.nodes[p]? = some node ∧ (node.cause = some q ∨ node.context = some q)

/-- The fault at one position has the one at another for its context, and has a cause as well. -/
def Hides (p q : Nat) : Prop :=
  ∃ node, f.nodes[p]? = some node ∧ node.cause.isSome = true ∧ node.context = some q

/-- There is a TLS fault behind a position, or at it. -/
def TlsBehind (p : Nat) : Prop := ∃ q, ReflTransGen f.Leads p q ∧ f.IsTlsAt q

/-- TLS failures behind a fault are recognized. -/
structure RecognizesTls : Prop where
  /-- The kind tells whether there is a TLS failure behind the fault. -/
  kind : f.kind = .secureChannelFailure ↔ f.TlsBehind 0
  /-- If there is one, a send that gives the fault is the last one of its call. -/
  final : f.TlsBehind 0 →
    ∀ (c : Client) (request : Http.Request) (script : Exchange.Script) (n : Nat) (s : Call.Sending),
      (c.sendings request script)[n]? = some s → (s.sent script).given = .error (.fault f) →
        (c.sendings request script).length = n + 1

variable {f}

omit [Codecs] in
/-- A link is followed by the chain, or it is hidden from it. -/
theorem leads_iff : f.Leads p q ↔ f.RaisedFrom p q ∨ f.Hides p q := by
  simp only [Leads, RaisedFrom, Hides, ← exists_or, ← and_or_left]
  refine exists_congr fun node => and_congr_right fun _ => ?_
  cases cause : node.cause <;> simp [Node.origin?, cause]

omit [Codecs] in
theorem reached_of_raisedFrom (along : ReflTransGen f.RaisedFrom p q) : ReflTransGen f.Leads p q :=
  ReflTransGen.mono (fun _ _ raised => leads_iff.mpr (.inl raised)) p q along

omit [Codecs] in
/-- The links behind a fault stay on the chain, or they leave it once at a hidden context. -/
theorem reached_cases (reached : ReflTransGen f.Leads p q) :
    ReflTransGen f.RaisedFrom p q ∨
      ∃ r s, ReflTransGen f.RaisedFrom p r ∧ f.Hides r s ∧ ReflTransGen f.Leads s q := by
  induction reached using ReflTransGen.head_induction_on with
  | refl => exact .inl .refl
  | head leads rest ih =>
    rcases leads_iff.mp leads with raised | hidden
    · rcases ih with along | ⟨r, s, along, hidden, behind⟩
      · exact .inl (along.head raised)
      · exact .inr ⟨r, s, along.head raised, hidden, behind⟩
    · exact .inr ⟨_, _, .refl, hidden, rest⟩

omit [Codecs] in
/-- A TLS fault behind a position is on the chain from there, or behind a context hidden from it. -/
theorem tlsBehind_iff : f.TlsBehind p ↔
    (∃ q, ReflTransGen f.RaisedFrom p q ∧ f.IsTlsAt q) ∨
      ∃ r s, ReflTransGen f.RaisedFrom p r ∧ f.Hides r s ∧ f.TlsBehind s := by
  constructor
  · rintro ⟨q, reached, tls⟩
    rcases reached_cases reached with along | ⟨r, s, along, hidden, behind⟩
    · exact .inl ⟨q, along, tls⟩
    · exact .inr ⟨r, s, along, hidden, q, behind, tls⟩
  · rintro (⟨q, along, tls⟩ | ⟨r, s, along, hidden, q, behind, tls⟩)
    · exact ⟨q, reached_of_raisedFrom along, tls⟩
    · have leaving := behind.head (leads_iff.mpr (.inr hidden))
      exact ⟨q, (reached_of_raisedFrom along).trans leaving, tls⟩

/-- A call ends with a send that gives a failure of the secure channel. -/
theorem last_of_secureChannelFailure (secure : f.kind = .secureChannelFailure) {c : Client}
    {request : Http.Request} {script : Exchange.Script} {n : Nat} {s : Call.Sending}
    (here : (c.sendings request script)[n]? = some s)
    (given : (s.sent script).given = .error (.fault f)) :
    (c.sendings request script).length = n + 1 := by
  apply Client.last_of_not_allows here given
  rw [secure]
  exact TransportRetry.not_allows_secureChannelFailure _ _ _ _

/-- TLS failures behind a fault are recognized exactly if those behind its hidden contexts come with
    one on its chain. -/
theorem recognizesTls_iff : f.RecognizesTls ↔
    ∀ r s, ReflTransGen f.RaisedFrom 0 r → f.Hides r s → f.TlsBehind s →
      ∃ q, ReflTransGen f.RaisedFrom 0 q ∧ f.IsTlsAt q := by
  constructor
  · intro recognizes r s along hidden behind
    have whole := tlsBehind_iff.mpr (.inr ⟨r, s, along, hidden, behind⟩)
    exact kind_eq_secureChannelFailure_iff.mp (recognizes.kind.mpr whole)
  · intro shown
    have kind : f.kind = .secureChannelFailure ↔ f.TlsBehind 0 := by
      rw [kind_eq_secureChannelFailure_iff, tlsBehind_iff]
      constructor
      · exact .inl
      · rintro (onChain | ⟨r, s, along, hidden, behind⟩)
        · exact onChain
        · exact shown r s along hidden behind
    exact ⟨kind, fun behind _ _ _ _ _ here given =>
      last_of_secureChannelFailure (kind.mpr behind) here given⟩

end

/-- A failed connection that was raised from a reset while a TLS fault was being handled. -/
def hiddenTls : Fault where
  entry := ⟨.network (some .connect), "boom", some 1, some 2⟩
  others := [⟨.system "OSError", "reset", none, none⟩, ⟨.tls .general, "bad record", none, none⟩]

end Fault

namespace Client

attribute [local instance] Codecs.plain

/-- A TLS fault that the cause hides, and then an answer. -/
def hiddenTls : Nat → Outcome
  | 0 => .fault Fault.hiddenTls
  | _ => .status 200

/-- A new client sends its request again after a fault with a TLS fault behind it. -/
theorem hiddenTls_resent :
    Fault.hiddenTls.TlsBehind 0 ∧ Fault.hiddenTls.kind = .connectionReset ∧
      ∃ created, create .default none = .ok created ∧
        let run := created.value.execute (.toHost "GET" .none) (.ofOutcomes 0 hiddenTls)
        run.sends = 2 ∧ run.result.toOption.map (·.response.status) = some 200 := by
  refine ⟨⟨2, ?_, _, rfl, rfl⟩, by decide, _, rfl, by decide +kernel, by decide +kernel⟩
  exact .single ⟨_, rfl, .inr rfl⟩

end Client

end Courier
