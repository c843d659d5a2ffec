import Courier.Proofs.Chain
import Mathlib.Data.List.Chain

/-!
# Walking along the origins

The walk along the origins of a fault is a loop with no limit of its own: it goes on as long as
there is a fault to go to that it has not met (`Visits`). `Fault.walk` has a limit on its turns.
Where every link leads to a fault of the graph (`Closed`) the loop ends, and the limit of a chain
does not cut it short: a chain is what the loop meets. It is a list of the graph's faults without
repetitions, each the origin of the one before it, that goes on until there is no origin or one that
is on the list, and there is no other such list (`chain_walks`).
-/

namespace Courier.Fault

variable {f : Fault} {fuel p q : Nat} {current : Option Nat} {seen met : List Nat}

variable (f) in
/-- Whether the links of the graph's faults lead to faults of the graph. -/
def Closed : Prop :=
  ∀ node ∈ f.nodes, (∀ q ∈ node.cause, q < f.nodes.length) ∧ ∀ q ∈ node.context, q < f.nodes.length

variable (f) in
/-- What the loop still meets where it has met `seen` and has come to `current`. Every rule is one
    turn, so there is such a list only if the loop ends. -/
inductive Visits : List Nat → Option Nat → List Nat → Prop where
  | absent {seen : List Nat} : Visits seen none []
  | again {seen : List Nat} {p : Nat} (old : p ∈ seen) : Visits seen (some p) []
  | visit {seen : List Nat} {p : Nat} {node : Node} {rest : List Nat} (fresh : p ∉ seen)
      (here : f.nodes[p]? = some node) (later : Visits (p :: seen) node.origin? rest) :
      Visits seen (some p) (p :: rest)

/-! ## The loop ends -/

theorem Closed.origin_lt (closed : f.Closed) {node : Node} (here : f.nodes[p]? = some node)
    (origin : node.origin? = some q) : q < f.nodes.length := by
  obtain ⟨caused, handled⟩ := closed node (List.mem_of_getElem? here)
  unfold Node.origin? at origin
  cases cause : node.cause with
  | none => exact handled q (by simpa [cause] using origin)
  | some q' => exact caused q (by simpa [cause] using origin)

/-- A walk with room enough meets what the loop does. -/
theorem visits_walk (closed : f.Closed) (room : f.Room fuel seen) (inside : p < f.nodes.length) :
    f.Visits seen (some p) (f.walk fuel seen p) := by
  induction fuel generalizing seen p with
  | zero => exact .again (room.seen_of_zero inside)
  | succ fuel ih =>
    by_cases old : p ∈ seen
    · simpa [walk, old] using Visits.again old
    · have here : f.nodes[p]? = some f.nodes[p] := List.getElem?_eq_getElem inside
      cases origin : f.nodes[p].origin? with
      | none =>
        have last : f.walk (fuel + 1) seen p = [p] := by simp [walk, old, here, origin]
        rw [last]
        exact .visit old here (origin ▸ .absent)
      | some next =>
        have onward : f.walk (fuel + 1) seen p = p :: f.walk fuel (p :: seen) next := by
          simp [walk, old, here, origin]
        rw [onward]
        exact .visit old here (origin ▸ ih (room.next old inside) (closed.origin_lt here origin))

/-- The loop meets one list only. -/
theorem Visits.unique {met' : List Nat} (visits : f.Visits seen current met)
    (visits' : f.Visits seen current met') : met = met' := by
  induction visits generalizing met' with
  | absent => cases visits'; rfl
  | again old =>
    cases visits' with
    | again => rfl
    | visit fresh => exact absurd old fresh
  | visit fresh here _ ih =>
    cases visits' with
    | again old => exact absurd old fresh
    | visit _ here' later =>
      cases here.symm.trans here'
      rw [ih later]

/-! ## What the loop meets -/

namespace Visits

theorem head (visits : f.Visits seen current met) : ∀ p ∈ met.head?, current = some p := by
  cases visits <;> simp

theorem distinct (visits : f.Visits seen current met) : met.Nodup ∧ ∀ p ∈ met, p ∉ seen := by
  induction visits with
  | absent => simp
  | again => simp
  | visit fresh _ _ ih =>
    obtain ⟨nodup, apart⟩ := ih
    rw [List.nodup_cons, List.forall_mem_cons]
    refine ⟨⟨fun met => apart _ met List.mem_cons_self, nodup⟩, fresh, fun p member old => ?_⟩
    exact apart p member (List.mem_cons_of_mem _ old)

theorem inside (visits : f.Visits seen current met) : ∀ p ∈ met, p < f.nodes.length := by
  induction visits with
  | absent => simp
  | again => simp
  | visit _ here _ ih => exact List.forall_mem_cons.mpr ⟨(List.getElem?_eq_some_iff.mp here).1, ih⟩

theorem follows (visits : f.Visits seen current met) : met.IsChain f.RaisedFrom := by
  induction visits with
  | absent => exact .nil
  | again => exact .nil
  | visit _ here later ih =>
    exact List.isChain_cons.mpr ⟨fun q first => ⟨_, here, later.head q first⟩, ih⟩

end Visits

/-- Whether the walk has nowhere to go from a fault: it has neither link, or its origin was met. -/
def Ends (f : Fault) (met : List Nat) (p : Nat) : Prop :=
  (∃ node, f.nodes[p]? = some node ∧ node.cause = none ∧ node.context = none) ∨
    ∃ q ∈ met, f.RaisedFrom p q

theorem Ends.mono {met' : List Nat} (ends : f.Ends met p) (subset : met ⊆ met') : f.Ends met' p :=
  ends.imp_right fun ⟨q, member, raised⟩ => ⟨q, subset member, raised⟩

theorem Node.origin?_eq_none {node : Node} :
    node.origin? = none ↔ node.cause = none ∧ node.context = none := by
  simp [origin?]

/-- The loop stops at once only if it has come to no fault, or to one that it has met. -/
theorem Visits.of_nil (visits : f.Visits seen current []) :
    current = none ∨ ∃ q ∈ seen, current = some q := by
  cases visits with
  | absent => exact .inl rfl
  | again old => exact .inr ⟨_, old, rfl⟩

/-- Where the loop stops it has nowhere to go. -/
theorem Visits.stops (visits : f.Visits seen current met) :
    ∀ p ∈ met.getLast?, f.Ends (seen ++ met) p := by
  induction visits with
  | absent => simp
  | again => simp
  | @visit seen p node rest fresh here later ih =>
    cases rest with
    | nil =>
      intro last member
      obtain rfl : p = last := by simpa using member
      rcases later.of_nil with none | ⟨q, old, origin⟩
      · exact .inl ⟨node, here, Node.origin?_eq_none.mp none⟩
      · refine .inr ⟨q, ?_, node, here, origin⟩
        rcases List.mem_cons.mp old with rfl | older
        · exact List.mem_append_right _ List.mem_cons_self
        · exact List.mem_append_left _ older
    | cons next rest =>
      intro last member
      rw [List.getLast?_cons_cons] at member
      refine (ih last member).mono fun q found => ?_
      simp only [List.cons_append, List.mem_cons, List.mem_append] at found ⊢
      tauto

/-! ## The only list -/

variable (f) in
/-- What a walk promises of the list of the faults that it meets. -/
structure Walks (met : List Nat) : Prop where
  starts : met.head? = some 0
  once : met.Nodup
  /-- Each fault is the cause of the one before it or, where that has none, its context. -/
  follows : met.IsChain f.RaisedFrom
  stops : ∀ p ∈ met.getLast?, f.Ends met p

/-- The loop meets every list that goes on from where the loop is, and keeps what a walk
    promises. -/
theorem visits_of_walks (starts : met.head? = some p) (once : met.Nodup)
    (fresh : ∀ q ∈ met, q ∉ seen) (follows : met.IsChain f.RaisedFrom)
    (stops : ∀ q ∈ met.getLast?, f.Ends (seen ++ met) q) :
    f.Visits seen (some p) met := by
  induction met generalizing seen p with
  | nil => cases starts
  | cons first rest ih =>
    obtain rfl : first = p := by simpa using starts
    rw [List.forall_mem_cons] at fresh
    cases rest with
    | nil =>
      rcases stops first rfl with ⟨node, here, root⟩ | ⟨q, member, node, here, origin⟩
      · exact .visit fresh.1 here (Node.origin?_eq_none.mpr root ▸ .absent)
      · refine .visit fresh.1 here (origin ▸ .again ?_)
        simpa [or_comm] using member
    | cons next rest =>
      rw [List.isChain_cons_cons] at follows
      obtain ⟨⟨node, here, origin⟩, follows⟩ := follows
      rw [List.nodup_cons] at once
      rw [List.getLast?_cons_cons] at stops
      refine .visit fresh.1 here (origin ▸ ih rfl once.2 ?_ follows ?_)
      · intro q member
        rw [List.mem_cons, not_or]
        exact ⟨fun same => once.1 (same ▸ member), fresh.2 q member⟩
      · intro q last
        refine (stops q last).mono fun r member => ?_
        simp only [List.cons_append, List.mem_cons, List.mem_append] at member ⊢
        tauto

theorem visits_iff_walks : f.Visits [] (some 0) met ↔ f.Walks met := by
  constructor
  · intro visits
    have starts : met.head? = some 0 := by cases visits <;> simp_all
    exact ⟨starts, visits.distinct.1, visits.follows, visits.stops⟩
  · intro walks
    exact visits_of_walks walks.starts walks.once (by simp) walks.follows walks.stops

variable (f) in
/-- What a chain is to be: what the loop meets, which ends, and the only list that keeps what a walk
    promises. -/
structure ChainWalks : Prop where
  ends : ∀ met, f.Visits [] (some 0) met ↔ met = f.chain
  bounded : f.chain.length ≤ f.nodes.length
  walks : ∀ met, f.Walks met ↔ met = f.chain

/-- Over a graph whose links stay within it, however they run in circles, the walk along the origins
    ends, and a chain is what it meets. -/
theorem chain_walks (f : Fault) (closed : f.Closed) : f.ChainWalks := by
  have visits : f.Visits [] (some 0) f.chain := visits_walk closed f.room_chain (by simp [nodes])
  have only : ∀ met, f.Visits [] (some 0) met ↔ met = f.chain :=
    fun met => ⟨fun other => other.unique visits, fun same => same ▸ visits⟩
  refine ⟨only, ?_, fun met => visits_iff_walks.symm.trans (only met)⟩
  have within : f.chain ⊆ List.range f.nodes.length :=
    fun p member => List.mem_range.mpr (visits.inside p member)
  simpa using (List.subperm_of_subset visits.distinct.1 within).length_le

/-- A fault whose origins run into a circle that it is not on itself. -/
def circular : Fault where
  entry := ⟨.network (some .read), "lost", none, some 1⟩
  others :=
    [⟨.system "OSError", "reset", some 2, some 0⟩, ⟨.system "OSError", "closed", none, some 1⟩,
    ⟨.system "OSError", "apart", some 3, some 0⟩]

theorem chain_walks_circular :
    circular.Closed ∧ circular.chain = [0, 1, 2] ∧ circular.ChainWalks := by
  have closed : circular.Closed := by
    unfold Closed
    decide
  exact ⟨closed, by decide, chain_walks circular closed⟩

end Courier.Fault
