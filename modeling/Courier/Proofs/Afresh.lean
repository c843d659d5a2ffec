import Courier.Proofs.Calls
import Courier.Proofs.Lockstep
import Courier.Proofs.Settled

/-!
# Calls after other calls

What a client keeps from its calls is the auth states and the cookies. The auth states change
nothing about a later call but what is logged of them; the cookies can only make a send fail. So a
call after others is as that of a new client exactly if cookies make the sends of both fail alike
(`execute_resembles_iff`).
-/

namespace Courier

/-- Whether a record is one that a session emits while it authenticates. -/
def Log.Record.isOfSession (record : Log.Record) : Bool :=
  record.level = .debug && (record.logger == Session.loggerName ||
    record.logger == AuthCache.loggerName)

/-- Whether an event is such a record. -/
def Event.isOfSession : Event → Bool
  | record entry => entry.isOfSession
  | send _ | wait _ => false

/-- The events of a call without the records of its session. -/
def Event.own (events : List Event) : List Event := events.filter (!·.isOfSession)

@[simp] theorem Event.own_append (first second : List Event) :
    Event.own (first ++ second) = Event.own first ++ Event.own second :=
  List.filter_append first second

theorem Event.own_ofRecords {records : List Log.Record}
    (session : ∀ record ∈ records, record.isOfSession) :
    Event.own (Event.ofRecords records) = [] := by
  unfold own ofRecords
  rw [List.filter_map, List.map_eq_nil_iff, List.filter_eq_nil_iff]
  intro record member
  simpa [isOfSession] using session record member

@[simp] theorem Event.requests_own (events : List Event) :
    Event.requests (Event.own events) = Event.requests events := by
  unfold requests own
  rw [List.filterMap_filter]
  congr 1
  funext event
  cases event <;> simp [isOfSession, request?]

theorem CredentialStore.Covers.lookup_records {s : CredentialStore} (covers : s.Covers)
    (target : Scope) :
    (s.lookup target).records = [] := by
  obtain ⟨credentials, found⟩ := Option.isSome_iff_exists.mp (covers target)
  simp [lookup, found]

theorem Session.authenticate_records {s : Session} (covers : s.store.Covers) (target : Scope) :
    ∀ record ∈ (s.authenticate target).records, record.isOfSession := by
  unfold authenticate
  cases cached : s.cache.get? target with
  | some state => simp
  | none =>
    obtain ⟨credentials, found⟩ := Option.isSome_iff_exists.mp (covers target)
    simp only [CredentialStore.lookup_value, found, covers.lookup_records, newState,
      AuthCache.commit, cached]
    simp [Log.Record.isOfSession, Log.Record.plain]

theorem Session.resolve_records {s : Session} (covers : s.store.Covers) (state : AuthState)
    (target : Scope) :
    (s.resolve state target).records = [] := by
  unfold resolve
  cases state.credentials with
  | some credentials => rfl
  | none => exact covers.lookup_records target

section

variable [Codecs]

/-- What is logged when a request is prepared comes from the session. -/
theorem Client.prepare_records {c : Client} (covers : c.session.store.Covers)
    (request : Http.Request) :
    ∀ record ∈ (c.prepare request).records, record.isOfSession := by
  unfold prepare
  cases Scope.ofUrl request.url with
  | error error => simp
  | ok target =>
    have authenticated := Session.authenticate_records covers target
    have covers' : (c.session.authenticate target).value.session.store.Covers := by
      rw [Session.authenticate_store]
      exact covers
    dsimp only
    cases (c.session.authenticate target).value.state with
    | none => simpa using authenticated
    | some state =>
      simp only [Session.resolve_records covers', List.append_nil,
        apply_ite Logged.records, ite_self]
      exact authenticated

namespace Call

variable {call call' : Call} {script : Exchange.Script}

/-- A run that ends like another one, with the same events but for the records of the session. -/
structure Run.Resembles (run run' : Run) : Prop where
  result : run'.result = run.result
  events : Event.own run'.events = Event.own run.events

/-- Calls in step on behalf of akin clients. -/
structure Alongside (call call' : Call) : Prop where
  akin : call.client.Akin call'.client
  inStep : call.InStep call'

/-- Over a schedule, sends of calls alongside give the same if cookies make them fail alike. -/
theorem Alongside.given_eq {schedule : Exchange.Schedule} (alongside : call.Alongside call')
    {outgoing : Http.Request}
    (alike : Sending.siteError? schedule.script ⟨call', outgoing⟩ =
      Sending.siteError? schedule.script ⟨call, outgoing⟩) :
    (Sending.sent schedule.script ⟨call', outgoing⟩).given =
      (Sending.sent schedule.script ⟨call, outgoing⟩).given := by
  have number : call'.context.sends = call.context.sends := by rw [alongside.inStep.context]
  unfold Sending.siteError? at alike
  simp only [Sending.sent, Exchange.Schedule.script, number] at alike ⊢
  exact Exchange.complete_congr alike

theorem own_advance (covers : call.client.session.store.Covers) :
    Event.own (call.advance script).events = Event.own (call.deeds script) := by
  rw [events_advance, Event.own_append, Event.own_ofRecords (Client.prepare_records covers _),
    List.nil_append]

/-- What calls alongside do when their sends give the same. -/
theorem Alongside.advance (alongside : call.Alongside call') {outgoing : Http.Request}
    (prepared : (call.client.prepare call.current).value.2 = .ok outgoing)
    (prepared' : (call'.client.prepare call'.current).value.2 = .ok outgoing)
    (same : (Sending.sent script ⟨call', outgoing⟩).given =
      (Sending.sent script ⟨call, outgoing⟩).given) :
    (call'.advance script).result = (call.advance script).result ∧
      Event.own (call'.advance script).events = Event.own (call.advance script).events ∧
      (call.advance script).call.Alongside (call'.advance script).call := by
  obtain ⟨ends, next⟩ := advance_of_sent script prepared
  obtain ⟨ends', next'⟩ := advance_of_sent script prepared'
  have after : (Sending.after script ⟨call, outgoing⟩).InStep
    (Sending.after script ⟨call', outgoing⟩) :=
    alongside.inStep.afterSend _ _
  have verdict : Sending.verdict script ⟨call', outgoing⟩ =
      Sending.verdict script ⟨call, outgoing⟩ := by
    rw [Sending.verdict, same]
    exact after.verdict _
  have store := alongside.akin.continues.store
  refine ⟨?_, ?_, alongside.akin.advance script script, ?_⟩
  · rw [ends, ends', verdict]
    rfl
  · have covers' : call'.client.session.store.Covers := by
      rw [store]
      exact alongside.akin.covers
    rw [own_advance alongside.akin.covers, own_advance covers', deeds_of_sent script prepared,
      deeds_of_sent script prepared', same]
    exact congrArg (Event.own <| Event.send outgoing :: ·) (after.receive rfl rfl _)
  · rw [next, next', verdict]
    exact after.settle _

/-- A call ends with an error of cookies only where a send gave it. -/
theorem given_of_site {given : Except Exchange.Error Http.Response} {error : Http.SiteError}
    (failed : call.verdict given = .fail (.site error)) : given = .error (.site error) := by
  have decided := call.decides_verdict given
  rw [failed] at decided
  generalize ended : Verdict.fail (.site error) = verdict at decided
  cases decided with
  | badSite error' => cases ended; rfl
  | @lostTarget response error' _ _ _ _ => cases error' <;> cases ended
  | _ => cases ended

/-- A run whose first send fails for its cookies ends there. -/
theorem run_of_siteError (fuel : Nat) {outgoing : Http.Request}
    (prepared : (call.client.prepare call.current).value.2 = .ok outgoing) {error : Http.SiteError}
    (spoilt : Sending.siteError? script ⟨call, outgoing⟩ = some error) :
    (call.run script (fuel + 1)).result = .error (.site error) ∧
      Event.requests (call.run script (fuel + 1)).events = [outgoing] := by
  have given := Exchange.siteError?_eq_some.mp spoilt
  have ends := (advance_of_sent script prepared).1
  simp only [Sending.verdict, given, verdict, Verdict.result] at ends
  have sent := requests_advance_of_sent script prepared
  rw [run_succ]
  simp only [ends, finish, sent, and_self]

/-- A run that ends with an error of cookies after its first send has it from there. -/
theorem siteError_of_run {fuel : Nat} {outgoing : Http.Request}
    (prepared : (call.client.prepare call.current).value.2 = .ok outgoing)
    (buffered : call.current.buffered = true)
    {error : Http.SiteError} (ended : (call.run script (fuel + 1)).result = .error (.site error))
    (once : Event.requests (call.run script (fuel + 1)).events = [outgoing]) :
    Sending.siteError? script ⟨call, outgoing⟩ = some error := by
  have ends := (advance_of_sent script prepared).1
  rw [run_succ] at ended once
  cases stopped : (call.advance script).result with
  | some result =>
    simp only [stopped, finish] at ended
    rw [stopped, ended] at ends
    exact Exchange.siteError?_eq_some.mpr (given_of_site (Verdict.eq_fail_of_result ends.symm))
  | none =>
    -- going on, the run would have sent again, or its end would have had another reason
    simp only [stopped] at ended once
    rw [Event.requests_append, requests_advance_of_sent script prepared] at once
    have silent : Event.requests ((call.advance script).call.run script fuel).events = [] := by
      simpa using once
    rw [requests_run, List.map_eq_nil_iff] at silent
    rcases run_result_cases script fuel (call.advance script).call (advance_buffered buffered) with
      ⟨s, member, -⟩ | ⟨turn, -, failure, refuses, refused⟩ | unfinished
    · rw [silent] at member
      cases member
    · rw [ended, Except.error.injEq] at refused
      rw [← refused] at refuses
      cases refuses
    · rw [ended] at unfinished
      cases unfinished

/-- Runs whose first turns are alike resemble each other if what is left of them does. -/
theorem resembles_succ_iff {fuel : Nat}
    (ends : (call'.advance script).result = (call.advance script).result)
    (own : Event.own (call'.advance script).events = Event.own (call.advance script).events) :
    (call.run script (fuel + 1)).Resembles (call'.run script (fuel + 1)) ↔
      ((call.advance script).result = none →
        ((call.advance script).call.run script fuel).Resembles
        ((call'.advance script).call.run script fuel)) := by
  cases ended : (call.advance script).result with
  | some result =>
    rw [ended] at ends
    simp only [run_succ, ended, ends, finish, reduceCtorEq, false_implies, iff_true]
    exact ⟨rfl, own⟩
  | none =>
    rw [ended] at ends
    simp only [run_succ, ended, ends, forall_const]
    constructor
    · rintro ⟨result, events⟩
      simp only [Event.own_append, own, List.append_cancel_left_eq] at events
      exact ⟨result, events⟩
    · rintro ⟨result, events⟩
      refine ⟨result, ?_⟩
      simp only [Event.own_append, own, events]

/-- Runs of calls alongside that resemble each other have first sends that cookies make fail
    alike. -/
theorem Alongside.alike_of_resembles (alongside : call.Alongside call')
    (buffered : call.current.buffered = true) {fuel : Nat} {outgoing : Http.Request}
    (prepared : (call.client.prepare call.current).value.2 = .ok outgoing)
    (prepared' : (call'.client.prepare call'.current).value.2 = .ok outgoing)
    (resembles : (call.run script (fuel + 1)).Resembles (call'.run script (fuel + 1))) :
    Sending.siteError? script ⟨call', outgoing⟩ = Sending.siteError? script ⟨call, outgoing⟩ := by
  have requests := congrArg Event.requests resembles.events
  rw [Event.requests_own, Event.requests_own] at requests
  cases here : Sending.siteError? script ⟨call, outgoing⟩ with
  | some error =>
    obtain ⟨ended, sent⟩ := run_of_siteError fuel prepared here
    exact siteError_of_run prepared' (by rw [alongside.inStep.current]; exact buffered)
      (resembles.result.trans ended) (requests.trans sent)
  | none =>
    cases here' : Sending.siteError? script ⟨call', outgoing⟩ with
    | none => rfl
    | some error =>
      obtain ⟨ended, sent⟩ := run_of_siteError fuel prepared' here'
      rw [siteError_of_run prepared buffered (resembles.result.symm.trans ended)
        (requests.symm.trans sent)] at here
      cases here

omit [Codecs] in
/-- What is the same at each number of two lists is so at their heads and in their tails. -/
theorem forall_getElem?_cons {α β : Type} (f : α → β) (a b : α) (as bs : List α) :
    (∀ (n : Nat) (s s' : α), (a :: as)[n]? = some s → (b :: bs)[n]? = some s' → f s' = f s) ↔
      f b = f a ∧ ∀ (n : Nat) (s s' : α), as[n]? = some s → bs[n]? = some s' → f s' = f s := by
  constructor
  · intro all
    exact ⟨all 0 a b rfl rfl, fun n => all (n + 1)⟩
  · rintro ⟨heads, tails⟩ n s s' here here'
    cases n with
    | zero =>
      cases here
      cases here'
      exact heads
    | succ n => exact tails n s s' here here'

/-- Calls alongside whose next request is refused end alike, and send nothing. -/
theorem Alongside.resembles_of_refused (alongside : call.Alongside call') {failure : Failure}
    (refused : (call.client.prepare call.current).value.2 = .error failure)
    (refused' : (call'.client.prepare call'.current).value.2 = .error failure) (fuel : Nat) :
    (call.run script (fuel + 1)).Resembles (call'.run script (fuel + 1)) ∧
      sendings script (fuel + 1) call = [] := by
  have covers' : call'.client.session.store.Covers := by
    rw [alongside.akin.continues.store]
    exact alongside.akin.covers
  have ends : (call.advance script).result = some (.error failure) := (advance_of_refused refused).1
  have ends' : (call'.advance script).result = some (.error failure) :=
    (advance_of_refused refused').1
  refine ⟨(resembles_succ_iff (ends'.trans ends.symm) ?_).mpr ?_, by simp only [sendings, refused]⟩
  · rw [own_advance alongside.akin.covers, own_advance covers', deeds_of_refused refused,
      deeds_of_refused refused']
  · intro going
    rw [ends] at going
    cases going

/-- Two runs over a schedule resemble each other exactly if cookies make their sends fail alike. -/
theorem run_resembles_iff (schedule : Exchange.Schedule) (fuel : Nat)
    (alongside : call.Alongside call') (buffered : call.current.buffered = true) :
    (call.run schedule.script fuel).Resembles (call'.run schedule.script fuel) ↔
      ∀ (n : Nat) (s s' : Sending), (sendings schedule.script fuel call)[n]? = some s →
        (sendings schedule.script fuel call')[n]? = some s' →
          s'.siteError? schedule.script = s.siteError? schedule.script := by
  induction fuel generalizing call call' with
  | zero => exact ⟨fun _ n s s' here _ => by simp [sendings] at here, fun _ => ⟨rfl, rfl⟩⟩
  | succ fuel ih =>
    have same : (call'.client.prepare call'.current).value.2 =
        (call.client.prepare call.current).value.2 := by
      rw [alongside.inStep.current]
      exact alongside.akin.prepare _
    cases prepared : (call.client.prepare call.current).value.2 with
    | error failure =>
      obtain ⟨resembles, silent⟩ :=
        alongside.resembles_of_refused prepared (same.trans prepared) fuel
      exact iff_of_true resembles fun n s s' here _ => by simp [silent] at here
    | ok outgoing =>
      have prepared' := same.trans prepared
      rw [sendings_succ_of_sent _ fuel prepared, sendings_succ_of_sent _ fuel prepared',
        forall_getElem?_cons]
      by_cases alike : Sending.siteError? schedule.script ⟨call', outgoing⟩ =
          Sending.siteError? schedule.script ⟨call, outgoing⟩
      · obtain ⟨ends, own, next⟩ := alongside.advance prepared prepared' (alongside.given_eq alike)
        rw [resembles_succ_iff ends own, and_iff_right alike]
        cases ended : (call.advance schedule.script).result with
        | some result =>
          rw [ended] at ends
          simp [ends]
        | none =>
          rw [ended] at ends
          simp only [ends, forall_const, ih next (advance_buffered buffered)]
      · refine iff_of_false (fun resembles => alike ?_) fun all => alike all.1
        exact alongside.alike_of_resembles buffered prepared prepared' resembles

end Call

namespace Client

/-- A call after others resembles the same call of the new client exactly if cookies make the sends
    of both fail alike. -/
theorem execute_resembles_iff {config : Config} {logger : Option String} {created : Logged Client}
    (built : create config logger = .ok created) (visits : List Visit) (request : Http.Request)
    (schedule : Exchange.Schedule) :
    let used := created.value.afterVisits visits
    (created.value.execute request schedule.script).Resembles
      (used.execute request schedule.script) ↔
      ∀ (n : Nat) (s s' : Call.Sending),
        (created.value.sendings request schedule.script)[n]? = some s →
        (used.sendings request schedule.script)[n]? = some s' →
          s'.siteError? schedule.script = s.siteError? schedule.script := by
  intro used
  have made := create_madeFrom built
  have akin : created.value.Akin used :=
    afterVisits_of (P := created.value.Akin) (fun c v akin => akin.execute v.request v.script)
      visits made.akin
  have isOpen : used.closed = false := by
    rw [akin.continues.closed]
    exact made.isOpen
  have steps : used.maxSends = created.value.maxSends := akin.continues.maxSends
  have context : RetryContext.start used.config.retryCount =
    .start created.value.config.retryCount := by
    rw [akin.continues.config]
  rw [execute_of_open isOpen, execute_of_open made.isOpen, sendings_of_open isOpen,
    sendings_of_open made.isOpen, steps]
  exact Call.run_resembles_iff schedule _
    ⟨akin, Call.inStep_of_continues akin.continues rfl rfl context⟩ rfl

end Client

end

namespace Client

attribute [local instance] Codecs.plain

/-- An answer that sets a cookie with a letter beyond ASCII. -/
def accentedCookie : Exchange.Schedule where
  clock _ := 0
  outcome _ :=
    .answer (.create 200 ⟨[⟨Http.FieldName.setCookie, Utf8.ofString "k=é"⟩]⟩ [] none none)

/-- A redirect within the host, and an answer there. -/
def movedOnce : Exchange.Schedule where
  clock _ := 0
  outcome n := if n = 0 then .redirect "/b" else .status 200

theorem execute_resembles_accented :
    ∃ created, create .default none = .ok created ∧
      let used := created.value.afterVisits [⟨.toHost "GET" .none, accentedCookie.script⟩]
      let request : Http.Request := .toHost "GET" .none
      (created.value.execute request movedOnce.script).Resembles
        (used.execute request movedOnce.script) ↔
        ∀ (n : Nat) (s s' : Call.Sending),
          (created.value.sendings request movedOnce.script)[n]? = some s →
          (used.sendings request movedOnce.script)[n]? = some s' →
            s'.siteError? movedOnce.script = s.siteError? movedOnce.script := by
  obtain ⟨created, built⟩ : ∃ created, create .default none = .ok created := ⟨_, rfl⟩
  exact ⟨created, built, execute_resembles_iff built _ _ _⟩

/-- Once a cookie with a letter beyond ASCII has come, a call that is redirected within the host
    raises an error where that of a new client returns an answer. -/
theorem accented_cookie_raised :
    ∃ created, create .default none = .ok created ∧
      let used := created.value.afterVisits [⟨.toHost "GET" .none, accentedCookie.script⟩]
      let fresh := created.value.execute (.toHost "GET" .none) movedOnce.script
      let later := used.execute (.toHost "GET" .none) movedOnce.script
      fresh.result.map (fun answer => answer.response.status) = .ok 200 ∧
        later.result.map (fun answer => answer.response.status) =
          .error (.site (.unencodable ⟨.ascii, ['k', '=', 'é']⟩)) ∧
        ¬ fresh.Resembles later := by
  obtain ⟨created, built, answered, failed⟩ : ∃ created, create .default none = .ok created ∧
      (created.value.execute (.toHost "GET" .none) movedOnce.script).result.map
          (fun answer => answer.response.status) = .ok 200 ∧
        ((created.value.afterVisits [⟨.toHost "GET" .none, accentedCookie.script⟩]).execute
            (.toHost "GET" .none) movedOnce.script).result.map
              (fun answer => answer.response.status) =
          .error (.site (.unencodable ⟨.ascii, ['k', '=', 'é']⟩)) :=
    ⟨_, rfl, by decide +kernel, by decide +kernel⟩
  refine ⟨created, built, answered, failed, ?_⟩
  intro resembles
  rw [resembles.result, answered] at failed
  cases failed

end Client

end Courier
