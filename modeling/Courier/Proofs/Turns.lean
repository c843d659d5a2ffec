import Courier.Proofs.Run

/-!
# The turns of a call

At each of its turns a call either sends its current request or ends, because the request is
refused: its host stands for no name, or there are no credentials that can be presented to the
target. `Call.turns` lists the call at each of its turns, so it has the one at which nothing is sent
beside those of `Call.sendings`. A refused turn is the last one, and its failure is the result of
the call (`run_of_refused`). A run whose last turn is not refused ends with what its last send leads
to, or for want of steps (`run_result_cases`).
-/

namespace Courier

namespace Call

variable [Codecs] {script : Exchange.Script}

/-- The target of the current request. -/
def target (call : Call) : Scope := call.current.url.scope

/-- The call at each of its turns. -/
def turns (script : Exchange.Script) : Nat → Call → List Call
  | 0, _ => []
  | fuel + 1, call =>
    call ::
      match (call.advance script).result with
      | some _ => []
      | none => turns script fuel (call.advance script).call

/-- The send of a turn, if its request can be prepared. -/
def sending? (turn : Call) : Option Sending :=
  match (turn.client.prepare turn.current).value.2 with
  | .ok outgoing => some ⟨turn, outgoing⟩
  | .error _ => none

variable (script) in
/-- The sends of a run are those of its turns. -/
theorem sendings_getElem? (fuel : Nat) (call : Call) (n : Nat) :
    (sendings script fuel call)[n]? = ((turns script fuel call)[n]?).bind sending? := by
  induction fuel generalizing call n with
  | zero => simp [sendings, turns]
  | succ fuel ih =>
    unfold sendings turns
    cases prepared : (call.client.prepare call.current).value.2 with
    | error failure =>
      rw [(advance_of_refused prepared).1]
      cases n with
      | zero => simp [sending?, prepared]
      | succ n => simp
    | ok outgoing =>
      cases n with
      | zero => simp [sending?, prepared]
      | succ n =>
        cases (call.advance script).result with
        | some result => simp
        | none => simpa using ih (call.advance script).call n

variable (script) in
/-- What holds of a call and is kept by every step that does not end it holds at every turn. -/
theorem turns_forall {P : Call → Prop}
    (step : ∀ call, P call → (call.advance script).result = none → P (call.advance script).call)
    (fuel : Nat) (call : Call) (start : P call) : ∀ turn ∈ turns script fuel call, P turn := by
  induction fuel generalizing call with
  | zero => simp [turns]
  | succ fuel ih =>
    unfold turns
    cases ended : (call.advance script).result with
    | some result => simpa using start
    | none => simpa using ⟨start, ih _ (step call start ended)⟩

/-- A turn whose request is refused ends its run, with as many sends as there were turns before
    it. -/
theorem run_of_refused {fuel : Nat} {call : Call} {n : Nat} {turn : Call}
    (here : (turns script fuel call)[n]? = some turn) {failure : Failure}
    (refused : (turn.client.prepare turn.current).value.2 = .error failure) :
    (call.run script fuel).result = .error failure ∧ (sendings script fuel call).length = n := by
  induction fuel generalizing call n with
  | zero => simp [turns] at here
  | succ fuel ih =>
    rw [run_succ]
    unfold turns at here
    unfold sendings
    cases n with
    | zero =>
      simp only [List.getElem?_cons_zero, Option.some.injEq] at here
      subst here
      simp [(advance_of_refused refused).1, finish, refused]
    | succ n =>
      rw [List.getElem?_cons_succ] at here
      cases going : (call.advance script).result with
      | some result => simp [going] at here
      | none =>
        simp only [going] at here ⊢
        cases prepared : (call.client.prepare call.current).value.2 with
        | error failure' => simp [(advance_of_refused prepared).1] at going
        | ok outgoing => simpa using ih here

variable (script) in
/-- A run ends with the result of its last send, because the request of a turn is refused, or
    because it has used up its steps. -/
theorem run_result_cases (fuel : Nat) (call : Call) (buffered : call.current.buffered = true) :
    (∃ s ∈ sendings script fuel call, (s.call.advance script).result =
        some (call.run script fuel).result) ∨
      (∃ turn ∈ turns script fuel call, ∃ failure, turn.client.Refuses turn.current failure ∧
        (call.run script fuel).result = .error failure) ∨
      (call.run script fuel).result = .error .unfinished := by
  induction fuel generalizing call with
  | zero => exact .inr (.inr rfl)
  | succ fuel ih =>
    rw [run_succ]
    unfold sendings turns
    cases prepared : (call.client.prepare call.current).value.2 with
    | error failure =>
      have refuses := call.client.prepare_eq_error call.current buffered prepared
      simp only [(advance_of_refused prepared).1, finish]
      exact .inr (.inl ⟨call, List.mem_cons_self, failure, refuses, rfl⟩)
    | ok outgoing =>
      cases ended : (call.advance script).result with
      | some result => simp [finish, ended]
      | none =>
        rcases ih (call.advance script).call (advance_buffered buffered) with
          ⟨s, member, last⟩ | ⟨turn, member, failure, refuses, refused⟩ | unfinished
        · exact .inl ⟨s, List.mem_cons_of_mem _ member, last⟩
        · exact .inr (.inl ⟨turn, List.mem_cons_of_mem _ member, failure, refuses, refused⟩)
        · exact .inr (.inr unfinished)

/-- A run whose last send does not end it has its next request refused, or has used up its steps. -/
theorem run_result_of_last {fuel : Nat} (call : Call) (buffered : call.current.buffered = true)
    {n : Nat} {s : Sending} (here : (sendings script fuel call)[n]? = some s)
    (last : (sendings script fuel call).length = n + 1) :
    (s.call.advance script).result = some (call.run script fuel).result ∨
      (∃ turn ∈ turns script fuel call, ∃ failure, turn.client.Refuses turn.current failure ∧
        (call.run script fuel).result = .error failure) ∨
      (call.run script fuel).result = .error .unfinished := by
  rcases run_result_cases script fuel call buffered with ⟨s', member, ended⟩ | other
  · obtain ⟨n', there⟩ := List.getElem?_of_mem member
    have same : n' = n := by
      have ends := (run_of_ended there ended).2
      omega
    rw [same, here, Option.some.injEq] at there
    exact .inl (there ▸ ended)
  · exact .inr other

end Call

namespace Client

variable [Codecs] (c : Client) (request : Http.Request) (script : Exchange.Script)

/-- The turns of a call; a closed client makes none. -/
def turns : List Call :=
  if c.closed then [] else Call.turns script c.maxSends (Call.start c request)

theorem sendings_eq_turns (n : Nat) :
    (c.sendings request script)[n]? = ((c.turns request script)[n]?).bind Call.sending? := by
  unfold sendings turns
  split
  · rfl
  · exact Call.sendings_getElem? script _ _ n

variable {c request script}

/-- At every turn the body of the request has been read. -/
theorem turns_buffered {turn : Call} (member : turn ∈ c.turns request script) :
    turn.current.buffered = true := by
  unfold turns at member
  split at member
  · cases member
  · exact Call.turns_forall script (P := (·.current.buffered = true))
      (fun _ buffered _ => Call.advance_buffered buffered) _ _ rfl turn member

/-- A turn that sends is one of the sends of its call. -/
theorem sending_of_turn {n : Nat} {turn : Call} (here : (c.turns request script)[n]? = some turn)
    {outgoing : Http.Request}
    (prepared : (turn.client.prepare turn.current).value.2 = .ok outgoing) :
    (c.sendings request script)[n]? = some ⟨turn, outgoing⟩ := by
  rw [sendings_eq_turns, here]
  simp [Call.sending?, prepared]

/-- Every send is that of a turn. -/
theorem turn_of_sending {s : Call.Sending} (member : s ∈ c.sendings request script) :
    s.call ∈ c.turns request script ∧
      (s.call.client.prepare s.call.current).value.2 = .ok s.outgoing := by
  obtain ⟨n, here⟩ := List.getElem?_of_mem member
  rw [sendings_eq_turns, Option.bind_eq_some_iff] at here
  obtain ⟨turn, there, sends⟩ := here
  unfold Call.sending? at sends
  split at sends
  · rename_i prepared
    cases sends
    exact ⟨List.mem_of_getElem? there, prepared⟩
  · cases sends

omit [Codecs] in
theorem maxSends_pos (c : Client) : 0 < c.maxSends := by
  unfold maxSends Budget.steps
  simp only
  split
  · exact Nat.succ_pos _
  · exact Nat.two_pow_pos 62

variable (script) in
/-- A call of an open client whose request can be prepared starts with sending it. -/
theorem first_sending (isOpen : c.closed = false) {outgoing : Http.Request}
    (prepared : (c.prepare request.read).value.2 = .ok outgoing) :
    ⟨Call.start c request, outgoing⟩ ∈ c.sendings request script := by
  obtain ⟨fuel, enough⟩ := Nat.exists_eq_add_of_lt c.maxSends_pos
  have prepared : ((Call.start c request).client.prepare (Call.start c request).current).value.2 =
    .ok outgoing := prepared
  rw [sendings_of_open isOpen, enough]
  unfold Call.sendings
  simp [prepared]

/-- A turn whose request is refused ends its call, with as many sends as there were turns before
    it. -/
theorem execute_of_refused {n : Nat} {turn : Call} (here : (c.turns request script)[n]? = some turn)
    {failure : Failure} (refused : (turn.client.prepare turn.current).value.2 = .error failure) :
    (c.execute request script).result = .error failure ∧ (c.execute request script).sends = n := by
  rw [sends_execute]
  unfold turns at here
  split at here
  · simp at here
  · rename_i open'
    have isOpen := Bool.eq_false_iff.mpr open'
    rw [execute_of_open isOpen, sendings_of_open isOpen]
    exact Call.run_of_refused here refused

variable (script) in
/-- A call of an open client whose request is refused does nothing but prepare it. -/
theorem execute_of_refused_start (isOpen : c.closed = false) {failure : Failure}
    (refused : (c.prepare request.read).value.2 = .error failure) :
    (c.execute request script).result = .error failure ∧
      Event.requests (c.execute request script).events = [] ∧
      (c.execute request script).client.session = c.preparedSession request.read := by
  obtain ⟨fuel, enough⟩ := Nat.exists_eq_add_of_lt c.maxSends_pos
  have refused : ((Call.start c request).client.prepare (Call.start c request).current).value.2 =
    .error failure := refused
  rw [execute_of_open isOpen, enough, Call.run_succ]
  simp only [(Call.advance_of_refused refused).1, Call.finish]
  exact ⟨trivial, Call.requests_advance_of_refused refused, Call.advance_session script _⟩

end Client

end Courier
