import Courier.Proofs.Exchange
import Courier.Proofs.Reachable

/-!
# Calls one after the other

A client makes its calls one after the other, and each continues with the client that the one before
has left: `Client.runs` are the runs of them all, `Client.afterVisits` is the client in the end.
What every call keeps of a client holds at each of them (`runs_forall`) and after them
(`afterVisits_of`).
-/

namespace Courier

/-- When the sends of a call happen, and what the transport gives for them. -/
structure Exchange.Schedule where
  clock : Nat → Int
  outcome : Nat → Outcome

variable [Codecs]

/-- The script of a schedule. -/
def Exchange.Schedule.script (schedule : Exchange.Schedule) : Exchange.Script :=
  fun n cookies request => Exchange.complete (schedule.clock n) cookies request (schedule.outcome n)

/-- The error of cookies that a send ends with, if it ends with one. -/
def Call.Sending.siteError? (script : Exchange.Script) (s : Call.Sending) : Option Http.SiteError :=
  Exchange.siteError? (s.sent script).given

/-- A call to make: a request, and what its sends give. -/
structure Visit where
  request : Http.Request
  script : Exchange.Script

namespace Client

/-- The run of a visit. -/
def visit (c : Client) (v : Visit) : Call.Run := c.execute v.request v.script

/-- The runs of visits that are made one after the other. -/
def runs (c : Client) : List Visit → List Call.Run
  | [] => []
  | v :: rest => c.visit v :: (c.visit v).client.runs rest

/-- The client once visits have been made one after the other. -/
def afterVisits (c : Client) : List Visit → Client
  | [] => c
  | v :: rest => (c.visit v).client.afterVisits rest

variable {P : Client → Prop} (step : ∀ c v, P c → P (c.visit v).client)

include step in
theorem afterVisits_of (visits : List Visit) {c : Client} (start : P c) :
    P (c.afterVisits visits) := by
  induction visits generalizing c with
  | nil => exact start
  | cons v rest ih => exact ih (step c v start)

include step in
theorem runs_forall (visits : List Visit) {c : Client} (start : P c) :
    ∀ run ∈ c.runs visits, ∃ before v, P before ∧ run = before.visit v := by
  induction visits generalizing c with
  | nil => simp [runs]
  | cons v rest ih =>
    intro run member
    rcases List.mem_cons.mp member with rfl | later
    · exact ⟨c, v, start, rfl⟩
    · exact ih (step c v start) run later

end Client

end Courier
