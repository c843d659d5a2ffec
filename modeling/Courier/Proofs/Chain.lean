import Courier.Fault.Basic
import Mathlib.Data.List.Perm.Subperm
import Mathlib.Data.List.Range
import Mathlib.Logic.Relation

/-!
# The chain of a fault

`Fault.walk` follows the origins of faults with a limit on its steps, and stops before a position it
has seen. For a chain the limit is the size of the graph. It never ends a walk too early: the seen
positions grow with every step, and they stay distinct positions of the graph (`Room`). So a chain
holds what can be reached along the origins, nothing less and nothing more (`mem_chain_iff`), and a
TLS fault among that decides the kind (`kind_eq_secureChannelFailure_iff`).
-/

namespace Courier.Fault

open Relation

variable {f : Fault} {fuel p q r : Nat} {seen : List Nat}

variable (f) in
/-- The fault at one position was raised from the one at another. -/
def RaisedFrom (p q : Nat) : Prop := ∃ node, f.nodes[p]? = some node ∧ node.origin? = some q

variable (f) in
/-- There is a TLS fault at a position. -/
def IsTlsAt (p : Nat) : Prop := ∃ node, f.nodes[p]? = some node ∧ node.category.isTls = true

theorem RaisedFrom.lt (raised : f.RaisedFrom p q) : p < f.nodes.length := by
  obtain ⟨node, here, _⟩ := raised
  exact (List.getElem?_eq_some_iff.mp here).1

theorem IsTlsAt.lt (tls : f.IsTlsAt p) : p < f.nodes.length := by
  obtain ⟨node, here, _⟩ := tls
  exact (List.getElem?_eq_some_iff.mp here).1

/-! ## What a walk meets -/

/-- A walk with a step left meets its start, if that is a new position of the graph, and then what
    the walk from the origin meets. -/
theorem mem_walk_succ : q ∈ f.walk (fuel + 1) seen p ↔
    p ∉ seen ∧ p < f.nodes.length ∧
      (q = p ∨ ∃ next, f.RaisedFrom p next ∧ q ∈ f.walk fuel (p :: seen) next) := by
  by_cases old : p ∈ seen
  · simp [walk, old]
  · by_cases inside : p < f.nodes.length
    · cases origin : f.nodes[p].origin? <;> simp [walk, old, inside, origin, RaisedFrom]
    · simp [walk, inside]

/-- Everything a walk meets is a position of the graph that is reached along the origins. -/
theorem reached_of_mem_walk (met : q ∈ f.walk fuel seen p) :
    ReflTransGen f.RaisedFrom p q ∧ q < f.nodes.length := by
  induction fuel generalizing seen p with
  | zero => cases met
  | succ fuel ih =>
    obtain ⟨_, inside, rfl | ⟨next, raised, later⟩⟩ := mem_walk_succ.mp met
    · exact ⟨.refl, inside⟩
    · obtain ⟨reached, within⟩ := ih later
      exact ⟨reached.head raised, within⟩

variable (f) in
/-- The steps left to a walk are enough: with the seen positions they make up the graph. -/
structure Room (fuel : Nat) (seen : List Nat) : Prop where
  distinct : seen.Nodup
  inside : ∀ p ∈ seen, p < f.nodes.length
  enough : f.nodes.length ≤ fuel + seen.length

theorem Room.next (room : f.Room (fuel + 1) seen) (fresh : p ∉ seen) (inside : p < f.nodes.length) :
    f.Room fuel (p :: seen) where
  distinct := List.nodup_cons.mpr ⟨fresh, room.distinct⟩
  inside := List.forall_mem_cons.mpr ⟨inside, room.inside⟩
  enough := by
    have enough := room.enough
    rw [List.length_cons]
    omega

/-- A walk without a step left has seen the whole graph. -/
theorem Room.seen_of_zero (room : f.Room 0 seen) (inside : p < f.nodes.length) : p ∈ seen := by
  have within : seen ⊆ List.range f.nodes.length :=
    fun q old => List.mem_range.mpr (room.inside q old)
  have enough : (List.range f.nodes.length).length ≤ seen.length := by
    rw [List.length_range, ← Nat.zero_add seen.length]
    exact room.enough
  have whole := (List.subperm_of_subset room.distinct within).perm_of_length_le enough
  exact whole.mem_iff.mpr (List.mem_range.mpr inside)

theorem mem_walk_self (room : f.Room fuel seen) (inside : p < f.nodes.length) (fresh : p ∉ seen) :
    p ∈ f.walk fuel seen p := by
  cases fuel with
  | zero => exact absurd (room.seen_of_zero inside) fresh
  | succ fuel => exact mem_walk_succ.mpr ⟨fresh, inside, .inl rfl⟩

/-- A walk that meets a fault meets its origin, unless that was seen before. -/
theorem mem_walk_of_raisedFrom (room : f.Room fuel seen) (met : q ∈ f.walk fuel seen p)
    (raised : f.RaisedFrom q r) (inside : r < f.nodes.length) (fresh : r ∉ seen) :
    r ∈ f.walk fuel seen p := by
  induction fuel generalizing seen p with
  | zero => cases met
  | succ fuel ih =>
    obtain ⟨unseen, here, met⟩ := mem_walk_succ.mp met
    refine mem_walk_succ.mpr ⟨unseen, here, ?_⟩
    -- the rest of the walk has seen its start, so an origin there needs no step
    by_cases back : r = p
    · exact .inl back
    · have further := room.next unseen here
      have new : r ∉ p :: seen := by simp [back, fresh]
      right
      rcases met with rfl | ⟨next, onward, later⟩
      · exact ⟨r, raised, mem_walk_self further inside new⟩
      · exact ⟨next, onward, ih further later new⟩

/-! ## The chain -/

theorem room_chain (f : Fault) : f.Room f.nodes.length [] where
  distinct := List.nodup_nil
  inside := by simp
  enough := by simp

/-- A chain holds exactly the positions of the graph that are reached along the origins. -/
theorem mem_chain_iff : q ∈ f.chain ↔ ReflTransGen f.RaisedFrom 0 q ∧ q < f.nodes.length := by
  constructor
  · exact reached_of_mem_walk
  · rintro ⟨reached, inside⟩
    induction reached with
    | refl => exact mem_walk_self f.room_chain inside List.not_mem_nil
    | tail _ raised ih =>
      exact mem_walk_of_raisedFrom f.room_chain (ih raised.lt) raised inside List.not_mem_nil

/-- A TLS fault on the chain decides the kind, and nothing else makes it that of a failure of the
    secure channel. -/
theorem kind_eq_secureChannelFailure_iff_any :
    f.kind = .secureChannelFailure ↔ f.chainNodes.any (·.category.isTls) = true := by
  unfold kind
  split
  · simp [*]
  · split
    · simp [*]
    · split <;> simp [*]

/-- What is on the chain is what is reached along the origins. -/
theorem kind_eq_secureChannelFailure_iff :
    f.kind = .secureChannelFailure ↔ ∃ q, ReflTransGen f.RaisedFrom 0 q ∧ f.IsTlsAt q := by
  simp only [kind_eq_secureChannelFailure_iff_any, List.any_eq_true, chainNodes, List.mem_filterMap]
  constructor
  · rintro ⟨node, ⟨q, met, here⟩, tls⟩
    exact ⟨q, (mem_chain_iff.mp met).1, node, here, tls⟩
  · rintro ⟨q, reached, tls⟩
    have met := mem_chain_iff.mpr ⟨reached, tls.lt⟩
    obtain ⟨node, here, tls⟩ := tls
    exact ⟨node, ⟨q, met, here⟩, tls⟩

end Courier.Fault
