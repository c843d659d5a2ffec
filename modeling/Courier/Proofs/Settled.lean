import Courier.Proofs.Reachable

/-!
# Sessions that go by their store

What a session has committed may outlive the entries of its store, and then it presents other
credentials than its store would find. As long as nobody edits the store this does not happen: every
state presents what the store finds for its host (`Session.Settled`), and authenticating keeps it
so. Two such sessions with one store prepare the same requests, whatever either has committed so
far. `Client.Akin` says that of clients, and it outlasts every step of their calls.
-/

namespace Courier

namespace Session

/-- Every committed state presents what the store finds for its host. -/
def Settled (s : Session) : Prop :=
  ∀ host state, s.cache.get? host = some state →
    state.credentials = none ∨ state.credentials = s.store.find? host

theorem Settled.authenticate {s : Session} (settled : s.Settled) (target : Scope) :
    (s.authenticate target).value.session.Settled := by
  intro host state cached
  rw [authenticate_store]
  rcases get?_authenticate cached with before | ⟨rfl, -, found⟩
  · exact settled host state before
  · exact .inr found

theorem Settled.credentials? {s : Session} (settled : s.Settled) (target : Scope) :
    s.credentials? target = s.store.find? target := by
  unfold Session.credentials?
  cases cached : s.cache.get? target with
  | none => simp
  | some state =>
    rcases settled target state cached with bare | found
    · simp [bare]
    · cases known : s.store.find? target <;> simp [found, known]

end Session

section

variable [Codecs]

/-- Preparing a request leaves a settled session settled. -/
theorem Session.Settled.prepared {c : Client} (settled : c.session.Settled)
    (request : Http.Request) :
    (c.preparedSession request).Settled := by
  unfold Client.preparedSession
  split
  · exact settled
  · exact settled.authenticate _

namespace Client

/-- Clients that have the same credentials for the target of a request prepare the same for it. -/
theorem prepare_congr {c c' : Client} {request : Http.Request} {credentials : Credentials}
    (known : c.session.credentials? request.url.scope = some credentials)
    (known' : c'.session.credentials? request.url.scope = some credentials) :
    (c'.prepare request).value.2 = (c.prepare request).value.2 := by
  have given : ∀ s : Session, s.credentials? request.url.scope = some credentials →
      ∃ state, (s.authenticate request.url.scope).value.state = some state := by
    intro s known
    refine Option.ne_none_iff_exists'.mp fun lacks => ?_
    rw [((s.unauthenticated_iff _).mp lacks).2] at known
    cases known
  rw [prepare_request, prepare_request]
  rcases Scope.ofUrl_cases request.url with ⟨error, -, unnamed⟩ | ⟨-, scope⟩
  · simp only [unnamed]
  · obtain ⟨state, found⟩ := given _ known
    obtain ⟨state', found'⟩ := given _ known'
    simp only [scope, found, found', outgoingRequest, presented_of_authenticate found,
      presented_of_authenticate found', known, known']

/-- Clients with the same settings, policies and credentials, which nobody has edited. They may
    differ in the states that they have committed and in their cookies. -/
structure Akin (c c' : Client) : Prop where
  continues : c.Continues c'
  covers : c.session.store.Covers
  settled : c.session.Settled
  settled' : c'.session.Settled

omit [Codecs] in
theorem Continues.symm {c c' : Client} (h : c.Continues c') : c'.Continues c := by
  obtain ⟨_, _, _, rfl⟩ := h
  exact ⟨c.session.cache, c.session.nextSerial, c.cookies, rfl⟩

namespace Akin

variable {c c' d d' : Client}

omit [Codecs] in
/-- Akin clients stay so when each of them goes on. -/
theorem mono (akin : c.Akin c') (continues : c.Continues d) (continues' : c'.Continues d')
    (settled : d.session.Settled) (settled' : d'.session.Settled) : d.Akin d' where
  continues := (continues.symm.trans akin.continues).trans continues'
  covers := by
    rw [continues.store]
    exact akin.covers
  settled := settled
  settled' := settled'

/-- Akin clients prepare the same for a request. -/
theorem prepare (akin : c.Akin c') (request : Http.Request) :
    (c'.prepare request).value.2 = (c.prepare request).value.2 := by
  obtain ⟨credentials, found⟩ := Option.isSome_iff_exists.mp (akin.covers request.url.scope)
  have known : c.session.credentials? request.url.scope = some credentials := by
    rw [akin.settled.credentials?, found]
  have known' : c'.session.credentials? request.url.scope = some credentials := by
    rw [akin.settled'.credentials?, akin.continues.store, found]
  exact prepare_congr known known'

theorem advance {call call' : Call} (akin : call.client.Akin call'.client)
    (script script' : Exchange.Script) :
    (call.advance script).call.client.Akin (call'.advance script').call.client := by
  refine akin.mono (call.advance_continues script) (call'.advance_continues script') ?_ ?_
  · rw [call.advance_session]
    exact akin.settled.prepared _
  · rw [call'.advance_session]
    exact akin.settled'.prepared _

end Akin

theorem execute_settled {c : Client} (settled : c.session.Settled) (request : Http.Request)
    (script : Exchange.Script) : (c.execute request script).client.session.Settled := by
  unfold execute
  split
  · exact settled
  · apply Call.run_client (P := fun client => client.session.Settled)
    · intro call before
      rw [Call.advance_session]
      exact before.prepared _
    · exact settled

omit [Codecs] in
/-- The states that a new client starts with have no credentials of their own. -/
theorem MadeFrom.settled {config : Config} {c : Client} (made : c.MadeFrom config) :
    c.session.Settled :=
  fun host state cached => .inl (made.starts.bareStates host state cached)

omit [Codecs] in
theorem MadeFrom.akin {config : Config} {c : Client} (made : c.MadeFrom config) : c.Akin c :=
  ⟨.refl c, made.covers, made.settled, made.settled⟩

/-- A call leaves its client akin to whatever it was akin to. -/
theorem Akin.execute {c c' : Client} (akin : c.Akin c') (request : Http.Request)
    (script : Exchange.Script) :
    c.Akin (c'.execute request script).client :=
  akin.mono (.refl c) (c'.execute_continues request script) akin.settled
    (execute_settled akin.settled' request script)

end Client

end

end Courier
