import Courier.Proofs.Reachable
import Mathlib.Data.List.Induction

/-!
# Closing for good

The first close that is done with a client closes it, whatever releasing its connections raises, and
nothing else does. Nothing that is done later opens it again or releases the connections another
time. Both are told for one action (`Client.act_closed`, `Client.act_releases`) and then for all of
them (`Client.after_closed`, `Client.after_releases`); what a closed client makes of a close and of
a call follows (`Client.closesForGood`).
-/

namespace Courier.Client

/-- Whether something that is done with a client closes it. -/
def Action.closes : Action → Bool
  | close _ => true
  | _ => false

section

variable [Codecs] (c : Client)

theorem act_closed (action : Action) : (c.act action).closed = (c.closed || action.closes) := by
  cases action with
  | execute request script =>
    rw [act, (c.execute_continues request script).closed]
    exact (Bool.or_false _).symm
  | close fault =>
    rw [act, close_client]
    cases isClosed : c.closed <;> simp [isClosed, Action.closes]
  | _ => exact (Bool.or_false _).symm

/-- Only closing an open client releases its connections. -/
theorem act_releases (action : Action) :
    (c.act action).releases = c.releases + if action.closes && !c.closed then 1 else 0 := by
  cases action with
  | execute request script =>
    obtain ⟨_, _, _, continued⟩ := c.execute_continues request script
    rw [act, continued]
    rfl
  | close fault =>
    rw [act, close_client]
    cases isClosed : c.closed <;> simp [Action.closes]
  | _ => rfl

theorem after_closed (actions : List Action) :
    (c.after actions).closed = (c.closed || actions.any Action.closes) := by
  induction actions using List.reverseRecOn with
  | nil => simp
  | append_singleton actions action ih => simp [after_concat, act_closed, ih, Bool.or_assoc]

theorem after_releases (isOpen : c.closed = false) (actions : List Action) :
    (c.after actions).releases = c.releases + if actions.any Action.closes then 1 else 0 := by
  induction actions using List.reverseRecOn with
  | nil => simp
  | append_singleton actions action ih =>
    rw [after_concat, act_releases, ih, after_closed, isOpen]
    -- the connections are released by an action only if none before it has done so
    cases before : actions.any Action.closes <;> cases now : action.closes <;> simp [before, now]

omit [Codecs] in
/-- A fault of an HTTP exchange or of the operating system does not come out of closing. -/
theorem close_of_kept {c : Client} (isOpen : c.closed = false) {fault : Fault}
    (kept : fault.category.isHttp = true ∨ fault.category.isSystem = true) :
    c.close fault = ⟨({ c with closed := true, releases := c.releases + 1 }, none),
      [{ Log.Record.plain c.logger "Error while closing the connection pool" with
         fault := some fault }]⟩ := by
  have kept' : (fault.category.isHttp || fault.category.isSystem) = true := by simpa using kept
  simp [close, isOpen, kept']

/-- What is to hold of a client that was new at first, after these actions and of what is done with
    it next. -/
structure ClosesForGood (actions : List Action) : Prop where
  closed : (c.after actions).closed = actions.any Action.closes
  released : (c.after actions).releases = if actions.any Action.closes then 1 else 0
  /-- Such a fault does not come out of the first close, but a record tells of it. -/
  first : actions.any Action.closes = false → ∀ fault : Fault,
    fault.category.isHttp = true ∨ fault.category.isSystem = true →
      ((c.after actions).close fault).value.2 = none ∧
        ∃ record, ((c.after actions).close fault).records = [record] ∧ record.level = .debug ∧
          record.logger = (c.after actions).logger ∧ record.fault = some fault
  /-- Every later close does nothing. -/
  closing : actions.any Action.closes = true → ∀ fault,
    (c.after actions).close fault = ⟨(c.after actions, none), []⟩
  /-- Every later call fails, without an event, and leaves the client and the request as they
      are. -/
  executing : actions.any Action.closes = true → ∀ request script,
    (c.after actions).execute request script = ⟨[], c.after actions, request, 0, .error .closed⟩

theorem IsNew.unreleased {c : Client} (new : c.IsNew) : c.closed = false ∧ c.releases = 0 := by
  obtain ⟨given, config, logger, created, accepted, built, rfl⟩ := new
  exact ⟨(create_madeFrom built).isOpen, create_releases built⟩

theorem closesForGood {c : Client} (new : c.IsNew) (actions : List Action) :
    c.ClosesForGood actions := by
  obtain ⟨isOpen, unreleased⟩ := new.unreleased
  have closed : (c.after actions).closed = actions.any Action.closes := by
    rw [after_closed, isOpen, Bool.false_or]
  refine ⟨closed, ?_, ?_, ?_, ?_⟩
  · rw [c.after_releases isOpen, unreleased, Nat.zero_add]
  · intro unclosed fault kept
    rw [unclosed] at closed
    rw [close_of_kept closed kept]
    exact ⟨rfl, _, rfl, rfl, rfl, rfl⟩
  · intro once fault
    rw [once] at closed
    simp [close, closed]
  · intro once request script
    rw [once] at closed
    simp [execute, closed]

end

attribute [local instance] Codecs.plain

/-- A call, a close that fails, another logger, another call and another close. -/
def closingActions : List Action :=
  [.execute (.toHost "GET" .none) (.ofOutcomes 0 fun _ => .status 200),
    .close (some (.single (.system "BrokenPipeError") "broken pipe")), .setLogger "app",
    .execute (.toHost "POST" (.chunks [[]])) (.ofOutcomes 0 fun _ => .status 200), .close none]

theorem closesForGood_broken :
    ∃ created, create .default none = .ok created ∧ created.value.IsNew ∧
      closingActions.any Action.closes = true ∧ created.value.ClosesForGood closingActions := by
  obtain ⟨created, built⟩ : ∃ created, create .default none = .ok created := ⟨_, rfl⟩
  have new := isNew_of_create_default built
  exact ⟨created, built, new, rfl, closesForGood new closingActions⟩

end Courier.Client
