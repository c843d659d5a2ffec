import Courier.Proofs.Step

/-!
# Runs of a call

`Call.sendings` lists the sends of a run: for each the call that is about to make it, and the
request that is sent. The events of a run send these requests and no others (`requests_run`), the
run counts them (`sends_run`), and every send but the last leads to the next one (`sendings_next`).
What holds of a call at its start and is kept by every step that does not end it holds at every send
(`sendings_forall`).

A call only touches the auth states and the cookies of its client; `Client.Continues` says so, and
`run_continues` that it holds of whole runs.
-/

namespace Courier

/-- A client during a call or after it: auth states may have been committed and cookies received,
    and nothing else is different. -/
def Client.Continues (c c' : Client) : Prop :=
  ∃ cache nextSerial cookies,
    c' = { c with session := { c.session with cache, nextSerial }, cookies }

namespace Client.Continues

variable {c c' c'' : Client}

theorem refl (c : Client) : c.Continues c := ⟨c.session.cache, c.session.nextSerial, c.cookies, rfl⟩

theorem trans (h : c.Continues c') (h' : c'.Continues c'') : c.Continues c'' := by
  obtain ⟨_, _, _, rfl⟩ := h
  obtain ⟨cache, nextSerial, cookies, rfl⟩ := h'
  exact ⟨cache, nextSerial, cookies, rfl⟩

theorem config (h : c.Continues c') : c'.config = c.config := by
  obtain ⟨_, _, _, rfl⟩ := h; rfl

theorem store (h : c.Continues c') : c'.session.store = c.session.store := by
  obtain ⟨_, _, _, rfl⟩ := h; rfl

theorem transportRetry (h : c.Continues c') : c'.transportRetry = c.transportRetry := by
  obtain ⟨_, _, _, rfl⟩ := h; rfl

theorem statusRetry (h : c.Continues c') : c'.statusRetry = c.statusRetry := by
  obtain ⟨_, _, _, rfl⟩ := h; rfl

theorem closed (h : c.Continues c') : c'.closed = c.closed := by
  obtain ⟨_, _, _, rfl⟩ := h; rfl

theorem maxSends (h : c.Continues c') : c'.maxSends = c.maxSends := by
  obtain ⟨_, _, _, rfl⟩ := h; rfl

end Client.Continues

namespace Call

section

variable [Codecs]

theorem preparedClient_continues (call : Call) : call.client.Continues call.preparedClient := by
  let session := call.client.preparedSession call.current
  refine ⟨session.cache, session.nextSerial, call.client.cookies, ?_⟩
  have store : session.store = call.client.session.store :=
    call.client.preparedSession_store call.current
  simp only [preparedClient, ← store, session]

theorem afterSend_continues (call : Call) (cookies : Http.CookieJar) :
    call.client.Continues (call.afterSend cookies).client :=
  call.preparedClient_continues.trans
    ⟨call.preparedClient.session.cache, call.preparedClient.session.nextSerial, cookies, rfl⟩

omit [Codecs] in
@[simp] theorem settle_client (call : Call) (verdict : Verdict) :
    (call.settle verdict).client = call.client := by
  cases verdict <;> rfl

/-- The step a call takes over a script. -/
def advance (script : Exchange.Script) (call : Call) : Step :=
  call.step (script call.context.sends.toNat)

variable {script : Exchange.Script}

/-- One send of a run: the call that is about to make it, and the request that is sent. -/
structure Sending where
  call : Call
  outgoing : Http.Request

namespace Sending

variable (script) (s : Sending)

/-- The request as it reaches the transport. -/
def wire : Http.Request := Exchange.onWire s.outgoing

/-- What the send gives. -/
def sent : Exchange.Sent := script s.call.context.sends.toNat s.call.client.cookies s.wire

/-- The call once the send has given something. -/
def after : Call := s.call.afterSend (s.sent script).cookies

/-- What the call does about it. -/
def verdict : Verdict := (s.after script).verdict (s.sent script).given

@[simp] theorem after_current : (s.after script).current = s.call.current := rfl
@[simp] theorem after_attempt : (s.after script).context.attempt = s.call.context.attempt := rfl
@[simp] theorem after_redirects :
    (s.after script).context.redirects = s.call.context.redirects := rfl
@[simp] theorem after_config : (s.after script).client.config = s.call.client.config := rfl

end Sending

variable (script) in
theorem advance_of_sent {call : Call} {outgoing : Http.Request}
    (prepared : (call.client.prepare call.current).value.2 = .ok outgoing) :
    let s : Sending := ⟨call, outgoing⟩
    (call.advance script).result = (s.verdict script).result s.wire ∧
      (call.advance script).call = (s.after script).settle (s.verdict script) :=
  ⟨(call.step_of_sent _ prepared).1, (call.step_of_sent _ prepared).2.1⟩

theorem advance_of_refused {call : Call} {failure : Failure}
    (refused : (call.client.prepare call.current).value.2 = .error failure) :
    (call.advance script).result = some (.error failure) ∧
      (call.advance script).call = { call with client := call.preparedClient } :=
  ⟨(call.step_of_refused _ refused).1, (call.step_of_refused _ refused).2.1⟩

variable (script) in
theorem advance_continues (call : Call) :
    call.client.Continues (call.advance script).call.client := by
  cases prepared : (call.client.prepare call.current).value.2 with
  | ok outgoing =>
    rw [(advance_of_sent script prepared).2, settle_client]
    exact call.afterSend_continues _
  | error failure =>
    rw [(advance_of_refused prepared).2]
    exact call.preparedClient_continues

variable (script) in
/-- A step leaves the session that preparing its request leaves. -/
theorem advance_session (call : Call) :
    (call.advance script).call.client.session = call.client.preparedSession call.current := by
  cases prepared : (call.client.prepare call.current).value.2 with
  | ok outgoing =>
    rw [(advance_of_sent script prepared).2, settle_client]
    rfl
  | error failure =>
    rw [(advance_of_refused prepared).2]
    rfl

theorem run_succ (fuel : Nat) (call : Call) :
    call.run script (fuel + 1) =
      match (call.advance script).result with
      | some result => (call.advance script).call.finish (call.advance script).events result
      | none =>
        let rest := (call.advance script).call.run script fuel
        { rest with events := (call.advance script).events ++ rest.events } := rfl

omit [Codecs] in
@[simp] theorem settle_origin (call : Call) (verdict : Verdict) :
    (call.settle verdict).origin = call.origin := by
  cases verdict <;> rfl

variable (script) in
theorem advance_origin (call : Call) : (call.advance script).call.origin = call.origin := by
  cases prepared : (call.client.prepare call.current).value.2 with
  | ok outgoing =>
    rw [(advance_of_sent script prepared).2, settle_origin]
    rfl
  | error failure => rw [(advance_of_refused prepared).2]

/-- A run leaves the caller with the request that it was started for. -/
theorem run_request (fuel : Nat) (call : Call) : (call.run script fuel).request = call.origin := by
  induction fuel generalizing call with
  | zero => rfl
  | succ fuel ih =>
    have kept := call.advance_origin script
    rw [run_succ]
    cases (call.advance script).result with
    | some result => exact kept
    | none => exact (ih _).trans kept

/-- What holds of the client at the start of a run and is kept by every step holds of it at the
    end. -/
theorem run_client {P : Client → Prop}
    (step : ∀ call : Call, P call.client → P (call.advance script).call.client)
    (fuel : Nat) (call : Call) (start : P call.client) : P (call.run script fuel).client := by
  induction fuel generalizing call with
  | zero => exact start
  | succ fuel ih =>
    have stepped := step call start
    rw [run_succ]
    cases (call.advance script).result with
    | some result => exact stepped
    | none => exact ih _ stepped

/-- A whole run keeps the settings, the policies and the credentials of its client. -/
theorem run_continues (fuel : Nat) (call : Call) :
    call.client.Continues (call.run script fuel).client :=
  run_client (P := call.client.Continues)
    (fun before continues => continues.trans (advance_continues script before)) fuel call (.refl _)

/-- The sends of a run. -/
def sendings (script : Exchange.Script) : Nat → Call → List Sending
  | 0, _ => []
  | fuel + 1, call =>
    match (call.client.prepare call.current).value.2 with
    | .error _ => []
    | .ok outgoing =>
      ⟨call, outgoing⟩ ::
        match (call.advance script).result with
        | some _ => []
        | none => sendings script fuel (call.advance script).call

variable (script) in
theorem sendings_succ_of_sent (fuel : Nat) {call : Call} {outgoing : Http.Request}
    (prepared : (call.client.prepare call.current).value.2 = .ok outgoing) :
    sendings script (fuel + 1) call =
      ⟨call, outgoing⟩ :: match (call.advance script).result with
        | some _ => []
        | none => sendings script fuel (call.advance script).call := by
  simp only [sendings, prepared]

/-- What holds of a call and is kept by every step that does not end it holds at every send. -/
theorem sendings_forall {P : Call → Prop}
    (step : ∀ call, P call → (call.advance script).result = none → P (call.advance script).call)
    (fuel : Nat) (call : Call) (start : P call) : ∀ s ∈ sendings script fuel call, P s.call := by
  induction fuel generalizing call with
  | zero => simp [sendings]
  | succ fuel ih =>
    unfold sendings
    cases (call.client.prepare call.current).value.2 with
    | error failure => simp
    | ok outgoing =>
      cases ended : (call.advance script).result with
      | some result => simpa using start
      | none => simpa using ⟨start, ih _ (step call start ended)⟩

/-- Every send sends the request that is prepared from the current one. -/
theorem sendings_prepared (fuel : Nat) (call : Call) :
    ∀ s ∈ sendings script fuel call, (s.call.client.prepare s.call.current).value.2 =
      .ok s.outgoing := by
  induction fuel generalizing call with
  | zero => simp [sendings]
  | succ fuel ih =>
    unfold sendings
    cases prepared : (call.client.prepare call.current).value.2 with
    | error failure => simp
    | ok outgoing =>
      cases (call.advance script).result with
      | some result => simpa using prepared
      | none => simpa using ⟨prepared, ih _⟩

/-- Every send of a run leads to what its verdict says. -/
theorem sendings_advance {fuel : Nat} {call : Call} {s : Sending}
    (member : s ∈ sendings script fuel call) :
    (s.call.advance script).result = (s.verdict script).result s.wire ∧
      (s.call.advance script).call = (s.after script).settle (s.verdict script) :=
  advance_of_sent script (sendings_prepared fuel call s member)

variable (script) in
theorem requests_advance_of_sent {call : Call} {outgoing : Http.Request}
    (prepared : (call.client.prepare call.current).value.2 = .ok outgoing) :
    Event.requests (call.advance script).events = [outgoing] :=
  (call.step_of_sent _ prepared).2.2

theorem requests_advance_of_refused {call : Call} {failure : Failure}
    (refused : (call.client.prepare call.current).value.2 = .error failure) :
    Event.requests (call.advance script).events = [] :=
  (call.step_of_refused _ refused).2.2

/-- The events of a run send the requests of its sends, in this order. -/
theorem requests_run (fuel : Nat) (call : Call) :
    Event.requests (call.run script fuel).events =
      (sendings script fuel call).map Sending.outgoing := by
  induction fuel generalizing call with
  | zero => rfl
  | succ fuel ih =>
    rw [run_succ]
    unfold sendings
    cases prepared : (call.client.prepare call.current).value.2 with
    | error failure =>
      simp only [(advance_of_refused prepared).1, finish, requests_advance_of_refused prepared,
        List.map_nil]
    | ok outgoing =>
      have sent := requests_advance_of_sent script prepared
      cases (call.advance script).result with
      | some result => simp [finish, sent]
      | none => simp [sent, ih]

/-! ## What a step does to the counters and the request -/

omit [Codecs] in
@[simp] theorem settle_sends (call : Call) (verdict : Verdict) :
    (call.settle verdict).context.sends = call.context.sends := by
  cases verdict <;> rfl

variable (script) in
theorem sends_advance_of_sent {call : Call} {outgoing : Http.Request}
    (prepared : (call.client.prepare call.current).value.2 = .ok outgoing) :
    (call.advance script).call.context.sends = call.context.sends + 1 := by
  rw [(advance_of_sent script prepared).2, settle_sends]
  rfl

theorem sends_advance_of_refused {call : Call} {failure : Failure}
    (refused : (call.client.prepare call.current).value.2 = .error failure) :
    (call.advance script).call.context.sends = call.context.sends := by
  rw [(advance_of_refused refused).2]

omit [Codecs] in
theorem settle_moves (call : Call) (verdict : Verdict) :
    ((call.settle verdict).current = call.current ∧
        (call.settle verdict).context.redirects = call.context.redirects) ∨
      ∃ url, (call.settle verdict).current = Redirect.followUp call.current url ∧
        (call.settle verdict).context.redirects = call.context.redirects + 1 := by
  cases verdict with
  | follow url => exact .inr ⟨url, rfl, rfl⟩
  | again => exact .inl ⟨rfl, rfl⟩
  | answer _ => exact .inl ⟨rfl, rfl⟩
  | fail _ => exact .inl ⟨rfl, rfl⟩

variable (script) in
/-- A step sends the same request again, or the one that follows a redirect, which it counts. -/
theorem advance_moves (call : Call) :
    ((call.advance script).call.current = call.current ∧
        (call.advance script).call.context.redirects = call.context.redirects) ∨
      ∃ url, (call.advance script).call.current = Redirect.followUp call.current url ∧
        (call.advance script).call.context.redirects = call.context.redirects + 1 := by
  cases prepared : (call.client.prepare call.current).value.2 with
  | ok outgoing =>
    rw [(advance_of_sent script prepared).2]
    exact settle_moves _ _
  | error failure =>
    rw [(advance_of_refused prepared).2]
    exact .inl ⟨rfl, rfl⟩

variable (script) in
theorem advance_current (call : Call) :
    (call.advance script).call.current = call.current ∨
      ∃ url, (call.advance script).call.current = Redirect.followUp call.current url :=
  (advance_moves script call).imp And.left (Exists.imp fun _ => And.left)

/-- What holds of the first request of a run and is kept by following a redirect holds of the
    current request at every send. -/
theorem sendings_current {P : Http.Request → Prop}
    (follow : ∀ request url, P request → P (Redirect.followUp request url))
    (fuel : Nat) (call : Call) (start : P call.current) :
    ∀ s ∈ sendings script fuel call, P s.call.current := by
  refine sendings_forall (P := fun call => P call.current) ?_ fuel call start
  intro call holds _
  rcases call.advance_current script with same | ⟨url, followed⟩
  · rwa [same]
  · rw [followed]
    exact follow _ _ holds

theorem advance_buffered {call : Call} (buffered : call.current.buffered = true) :
    (call.advance script).call.current.buffered = true := by
  rcases call.advance_current script with same | ⟨url, followed⟩
  · rwa [same]
  · rw [followed, Redirect.followUp_buffered]

/-! ## How a run ends -/

/-- A run counts its sends. -/
theorem sends_run (fuel : Nat) (call : Call) (counted : 0 ≤ call.context.sends) :
    (call.run script fuel).sends =
      call.context.sends.toNat + (sendings script fuel call).length := by
  induction fuel generalizing call with
  | zero => rfl
  | succ fuel ih =>
    rw [run_succ]
    unfold sendings
    cases prepared : (call.client.prepare call.current).value.2 with
    | error failure =>
      simp [(advance_of_refused prepared).1, finish, sends_advance_of_refused prepared]
    | ok outgoing =>
      have sent := sends_advance_of_sent script prepared
      cases (call.advance script).result with
      | some result =>
        simp only [finish, sent, List.length_singleton]
        omega
      | none =>
        have later := ih (call.advance script).call (by omega)
        simp only [later, sent, List.length_cons]
        omega

/-- A send is the first one of its run, or one of the rest of the run, after a step that does not
    end the call. -/
theorem sendings_cases {fuel : Nat} {call : Call} {n : Nat} {s : Sending}
    (here : (sendings script (fuel + 1) call)[n]? = some s) :
    ∃ outgoing, (call.client.prepare call.current).value.2 = .ok outgoing ∧
      (n = 0 ∧ s = ⟨call, outgoing⟩ ∨
        ∃ m, n = m + 1 ∧ (call.advance script).result = none ∧
          (sendings script fuel (call.advance script).call)[m]? = some s) := by
  cases prepared : (call.client.prepare call.current).value.2 with
  | error failure => simp [sendings, prepared] at here
  | ok outgoing =>
    rw [sendings_succ_of_sent script fuel prepared] at here
    refine ⟨outgoing, rfl, ?_⟩
    cases n with
    | zero =>
      rw [List.getElem?_cons_zero, Option.some.injEq] at here
      exact .inl ⟨rfl, here.symm⟩
    | succ m =>
      rw [List.getElem?_cons_succ] at here
      cases going : (call.advance script).result with
      | some result => simp [going] at here
      | none =>
        simp only [going] at here
        exact .inr ⟨m, rfl, rfl, here⟩

/-- The sends of a run are numbered from that of the call at its start. -/
theorem sendings_sends {fuel : Nat} {call : Call} {n : Nat} {s : Sending}
    (here : (sendings script fuel call)[n]? = some s) :
    s.call.context.sends = call.context.sends + n := by
  induction fuel generalizing call n with
  | zero => simp [sendings] at here
  | succ fuel ih =>
    obtain ⟨outgoing, prepared, ⟨rfl, rfl⟩ | ⟨m, rfl, going, later⟩⟩ := sendings_cases here
    · simp
    · rw [ih later, sends_advance_of_sent script prepared]
      omega

/-- A send is followed by another one only when its step does not end the call, and then the next
    one is that of the call after the step. -/
theorem sendings_next {fuel : Nat} {call : Call} {n : Nat} {s s' : Sending}
    (here : (sendings script fuel call)[n]? = some s)
    (next : (sendings script fuel call)[n + 1]? = some s') :
    (s.call.advance script).result = none ∧ s'.call = (s.call.advance script).call := by
  induction fuel generalizing call n with
  | zero => simp [sendings] at here
  | succ fuel ih =>
    obtain ⟨following, -, ⟨first, -⟩ | ⟨k, same, going, next⟩⟩ := sendings_cases next
    · cases first
    obtain rfl := Nat.succ.inj same
    obtain ⟨outgoing, -, ⟨rfl, rfl⟩ | ⟨m, rfl, -, here⟩⟩ := sendings_cases here
    · -- the next send is the first one of the rest of the run
      refine ⟨going, ?_⟩
      cases fuel with
      | zero => simp [sendings] at next
      | succ fuel =>
        obtain ⟨following, -, ⟨-, rfl⟩ | ⟨m, again, -⟩⟩ := sendings_cases next
        · rfl
        · cases again
    · exact ih here next

/-- A send whose step ends the call is the last one of the run, and its result is that of the
    run. -/
theorem run_of_ended {fuel : Nat} {call : Call} {n : Nat} {s : Sending}
    (here : (sendings script fuel call)[n]? = some s) {result : Except Failure Answer}
    (ended : (s.call.advance script).result = some result) :
    (call.run script fuel).result = result ∧ (sendings script fuel call).length = n + 1 := by
  induction fuel generalizing call n with
  | zero => simp [sendings] at here
  | succ fuel ih =>
    obtain ⟨outgoing, prepared, ⟨rfl, rfl⟩ | ⟨m, rfl, going, later⟩⟩ := sendings_cases here
    · rw [run_succ, sendings_succ_of_sent script fuel prepared, ended]
      exact ⟨rfl, rfl⟩
    · rw [run_succ, sendings_succ_of_sent script fuel prepared, going, List.length_cons,
        Nat.add_left_inj]
      exact ih later

end

end Call

/-! ## Calls of a client -/

namespace Client

variable [Codecs] (c : Client) (request : Http.Request) (script : Exchange.Script)

/-- The sends of a call; a closed client makes none. -/
def sendings : List Call.Sending :=
  if c.closed then [] else Call.sendings script c.maxSends (Call.start c request)

theorem requests_execute :
    Event.requests (c.execute request script).events =
      (c.sendings request script).map Call.Sending.outgoing := by
  unfold execute sendings
  split
  · rfl
  · exact Call.requests_run _ _

/-- A call counts its sends. -/
theorem sends_execute : (c.execute request script).sends = (c.sendings request script).length := by
  unfold execute sendings
  split
  · rfl
  · rw [Call.sends_run _ _ (Int.le_refl 0)]
    exact Nat.zero_add _

variable {c request script}

theorem execute_of_open (isOpen : c.closed = false) :
    c.execute request script = (Call.start c request).run script c.maxSends := by
  simp [execute, isOpen]

/-- A client that makes a send is open. -/
theorem isOpen_of_sending {n : Nat} {s : Call.Sending}
    (here : (c.sendings request script)[n]? = some s) :
    c.closed = false := by
  cases closed : c.closed with
  | false => rfl
  | true => simp [sendings, closed] at here

theorem sendings_of_open (isOpen : c.closed = false) :
    c.sendings request script = Call.sendings script c.maxSends (Call.start c request) := by
  simp [sendings, isOpen]

/-- What holds of a call at its start and is kept by every step holds at each of its sends. -/
theorem sendings_forall {P : Call → Prop} (start : P (Call.start c request))
    (step : ∀ call, P call → P (call.advance script).call) :
    ∀ s ∈ c.sendings request script, P s.call := by
  intro s member
  unfold sendings at member
  split at member
  · cases member
  · exact Call.sendings_forall (fun call holds _ => step call holds) _ _ start s member

/-- At every send the client has its settings, its policies and its credentials. -/
theorem sending_continues {s : Call.Sending} (member : s ∈ c.sendings request script) :
    c.Continues s.call.client :=
  sendings_forall (P := fun call => c.Continues call.client) (.refl c)
    (fun call continues => continues.trans (call.advance_continues script)) s member

/-- The sends of a call are numbered from zero. -/
theorem sendings_number {n : Nat} {s : Call.Sending}
    (here : (c.sendings request script)[n]? = some s) : s.call.context.sends.toNat = n := by
  rw [sendings_of_open (isOpen_of_sending here)] at here
  rw [Call.sendings_sends here]
  exact congrArg Int.toNat (Int.zero_add _)

/-- Every send of a call leads to what its verdict says. -/
theorem advance_of_sending {n : Nat} {s : Call.Sending}
    (here : (c.sendings request script)[n]? = some s) :
    (s.call.advance script).result = (s.verdict script).result s.wire ∧
      (s.call.advance script).call = (s.after script).settle (s.verdict script) := by
  rw [sendings_of_open (isOpen_of_sending here)] at here
  exact Call.sendings_advance (List.mem_of_getElem? here)

/-- A call ends with the first send whose verdict ends it. -/
theorem execute_of_ended {n : Nat} {s : Call.Sending}
    (here : (c.sendings request script)[n]? = some s) {result : Except Failure Answer}
    (ended : (s.verdict script).result s.wire = some result) :
    (c.execute request script).result = result ∧ (c.sendings request script).length = n + 1 := by
  have isOpen := isOpen_of_sending here
  rw [← (advance_of_sending here).1] at ended
  rw [sendings_of_open isOpen] at here ⊢
  rw [execute_of_open isOpen]
  exact Call.run_of_ended here ended

/-- A send that another one follows does not end the call, and the next one is that of the call
    after it. -/
theorem sendings_next {n : Nat} {s next : Call.Sending}
    (here : (c.sendings request script)[n]? = some s)
    (there : (c.sendings request script)[n + 1]? = some next) :
    (s.verdict script).result s.wire = none ∧
      next.call = (s.after script).settle (s.verdict script) := by
  have isOpen := isOpen_of_sending here
  rw [← (advance_of_sending here).1, ← (advance_of_sending here).2]
  rw [sendings_of_open isOpen] at here there
  exact Call.sendings_next here there

end Client

end Courier
