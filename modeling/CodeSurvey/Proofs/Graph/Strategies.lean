import CodeSurvey.Proofs.Graph.Descent
import CodeSurvey.Proofs.Graph.Enumeration

namespace CodeSurvey

namespace Adjacency

variable {graph : Adjacency} {walk : List String}

/-- A walk along edges that ends where it began. Nodes and edges may repeat. -/
structure IsClosedWalk (graph : Adjacency) (walk : List String) : Prop where
  steps : walk.IsChain graph.Edge
  returns : walk.head? = walk.getLast?

instance (graph : Adjacency) (walk : List String) : Decidable (graph.IsClosedWalk walk) :=
  decidable_of_iff (walk.IsChain graph.Edge ∧ walk.head? = walk.getLast?)
    ⟨fun ⟨steps, returns⟩ => ⟨steps, returns⟩, fun ⟨steps, returns⟩ => ⟨steps, returns⟩⟩

namespace IsClosedWalk

/-- A closed walk that leaves its first node is a cycle with the first node written twice. -/
theorem exists_cycle (closed : graph.IsClosedWalk walk) {node other : String} (member : node ∈ walk)
    (otherMember : other ∈ walk) (different : node ≠ other) :
    ∃ first middle, walk = first :: (middle ++ [first]) := by
  obtain ⟨first, rest, rfl⟩ := List.exists_cons_of_ne_nil (List.ne_nil_of_mem member)
  rcases List.eq_nil_or_concat rest with rfl | ⟨middle, last, rfl⟩
  · exact absurd ((List.mem_singleton.mp member).trans (List.mem_singleton.mp otherMember).symm) different
  · have returns := closed.returns
    rw [List.head?_cons, List.concat_eq_append, ← List.cons_append, List.getLast?_concat] at returns
    cases returns
    exact ⟨first, middle, by rw [List.concat_eq_append]⟩

/-- A relation that holds along every step of a walk, and that is transitive, holds between any two
nodes of it. -/
theorem forall_of_chain {R : String → String → Prop} [IsTrans String R] {first : String}
    {middle : List String} (chain : (first :: (middle ++ [first])).IsChain R) {node other : String}
    (member : node ∈ first :: (middle ++ [first])) (otherMember : other ∈ first :: (middle ++ [first])) :
    R node other := by
  have cycle : ((first :: middle : List String) : Cycle String).Chain R :=
    (Cycle.chain_coe_cons R first middle).mpr chain
  have inside {name : String} (found : name ∈ first :: (middle ++ [first])) :
      name ∈ ((first :: middle : List String) : Cycle String) := by
    rw [Cycle.mem_coe_iff]
    simpa [or_comm, or_assoc] using found
  exact Cycle.chain_iff_pairwise.mp cycle node (inside member) other (inside otherMember)

/-- All nodes of a closed walk lie in one strongly connected component. -/
theorem linked (closed : graph.IsClosedWalk walk) {node other : String} (member : node ∈ walk)
    (otherMember : other ∈ walk) : graph.Linked node other := by
  by_cases same : node = other
  · exact same ▸ .refl graph node
  obtain ⟨first, middle, rfl⟩ := closed.exists_cycle member otherMember same
  have chain := closed.steps.imp fun _ _ edge => (.single edge : graph.Reaches _ _)
  exact ⟨forall_of_chain chain member otherMember, forall_of_chain chain otherMember member⟩

end IsClosedWalk

/-- Two nodes of one strongly connected component lie on a closed walk. -/
theorem Linked.exists_closedWalk {node other : String} (linked : graph.Linked node other) :
    ∃ walk, graph.IsClosedWalk walk ∧ node ∈ walk ∧ other ∈ walk := by
  obtain ⟨there, thereSteps, thereLast⟩ := List.exists_isChain_cons_of_relationReflTransGen linked.1
  obtain ⟨back, backSteps, backLast⟩ := List.exists_isChain_cons_of_relationReflTransGen linked.2
  have atOther : (node :: there).getLast? = some other := by
    rw [List.getLast?_eq_some_getLast (List.cons_ne_nil _ _), thereLast]
  have atNode : back.getLast?.or (some other) = some node := by
    rw [← List.getLast?_singleton, ← List.getLast?_append, List.singleton_append,
      List.getLast?_eq_some_getLast (List.cons_ne_nil _ _), backLast]
  refine ⟨node :: there ++ back, ⟨?_, ?_⟩, by simp, ?_⟩
  · rw [List.isChain_cons] at backSteps
    refine List.isChain_append.mpr ⟨thereSteps, backSteps.2, fun last atLast next atNext => ?_⟩
    cases atOther.symm.trans atLast
    exact backSteps.1 next atNext
  · rw [List.getLast?_append, atOther, atNode]
    rfl
  · exact List.mem_append_left back (List.mem_of_getLast? atOther)

end Adjacency

namespace Descent

variable {graph : Adjacency}

theorem idxOf_lt_of_sublist {names : List String} (distinct : names.Nodup) {node other : String}
    (inside : [node, other].Sublist names) : names.idxOf node < names.idxOf other := by
  obtain ⟨front, back, rfl, inFront, inBack⟩ := List.cons_sublist_iff.mp inside
  have otherBack : other ∈ back := List.singleton_sublist.mp inBack
  have otherFront : other ∉ front := fun again =>
    (List.nodup_append.mp distinct).2.2 other again other otherBack rfl
  rw [List.idxOf_append_of_mem inFront, List.idxOf_append_of_notMem otherFront]
  have bound := List.idxOf_lt_length_of_mem inFront
  omega

/-- Two selections from a list without repetitions that hold the same names are the same. -/
theorem eq_of_sublist_of_perm {names left right : List String} (distinct : names.Nodup)
    (leftInside : left.Sublist names) (rightInside : right.Sublist names) (perm : left.Perm right) :
    left = right := by
  have ordered {part : List String} (inside : part.Sublist names) :
      part.Pairwise fun node other => names.idxOf node < names.idxOf other :=
    List.pairwise_iff_forall_sublist.mpr fun pair => idxOf_lt_of_sublist distinct (pair.trans inside)
  exact perm.eq_of_pairwise (fun _ _ _ _ forth back => absurd forth (Nat.lt_asymm back))
    (ordered leftInside) (ordered rightInside)

/-- The target is the same node or comes later in the order of the descent. -/
def Forward (graph : Adjacency) (node target : String) : Prop :=
  node = target ∨ (order graph).idxOf node < (order graph).idxOf target

instance (graph : Adjacency) : IsTrans String (Forward graph) where
  trans first second third there onward := by
    rcases there with rfl | there
    · exact onward
    · rcases onward with rfl | onward
      · exact .inr there
      · exact .inr (there.trans onward)

theorem Forward.antisymm {node other : String} (there : Forward graph node other)
    (back : Forward graph other node) : node = other := by
  rcases there with same | lower
  · exact same
  · rcases back with same | upper
    · exact same.symm
    · exact absurd upper (Nat.lt_asymm lower)

/-- A closed walk through two nodes cannot go forward in the order of the descent all the way, so
one of its steps closes a reported circuit. -/
theorem exists_closes_of_closedWalk {walk : List String} (closed : graph.IsClosedWalk walk)
    {node other : String} (member : node ∈ walk) (otherMember : other ∈ walk) (different : node ≠ other) :
    ∃ last first, Closes (circuits graph) last first ∧ [last, first] <:+: walk := by
  by_contra! none
  have forward : walk.IsChain (Forward graph) := by
    refine (isChain_and closed.steps (List.isChain_isInfix walk)).imp fun first second ⟨edge, inside⟩ => ?_
    by_cases same : second = first
    · exact .inl same.symm
    · rcases forward_or_closes edge same with later | closes
      · exact .inr (idxOf_lt_of_sublist (order_nodup graph) later)
      · exact absurd inside (none first second closes)
  obtain ⟨first, middle, rfl⟩ := closed.exists_cycle member otherMember different
  have there := Adjacency.IsClosedWalk.forall_of_chain forward member otherMember
  have back := Adjacency.IsClosedWalk.forall_of_chain forward otherMember member
  exact different (there.antisymm back)

/-- Every strongly connected component with two nodes has a reported circuit in it. -/
theorem exists_circuit_of_linked {node other : String} (linked : graph.Linked node other)
    (different : node ≠ other) :
    ∃ circuit ∈ circuits graph, ∀ member ∈ circuit, graph.Linked node member := by
  obtain ⟨walk, closed, inside, otherInside⟩ := linked.exists_closedWalk
  obtain ⟨last, first, ⟨circuit, found, atLast, _⟩, step⟩ :=
    exists_closes_of_closedWalk closed inside otherInside different
  have lastInside : last ∈ walk := step.subset (List.mem_cons_self ..)
  refine ⟨circuit, found, fun member memberInside => ?_⟩
  exact (closed.linked inside lastInside).trans
    ((isCircuit_of_mem found).linked (List.mem_of_getLast? atLast) memberInside)

theorem circuits_eq_nil_iff : circuits graph = [] ↔ ∀ nodes, ¬graph.IsCircuit nodes := by
  rw [List.eq_nil_iff_forall_not_mem]
  constructor
  · intro empty nodes isCircuit
    obtain ⟨node, member, other, otherMember, different⟩ := isCircuit.exists_ne
    obtain ⟨circuit, found, _⟩ :=
      exists_circuit_of_linked (isCircuit.linked member otherMember) different
    exact empty circuit found
  · exact fun acyclic circuit found => acyclic circuit (isCircuit_of_mem found)

/-- The steps with which the reported circuits close meet every closed walk through two nodes. So
the descent reports nothing only where the enumeration lists nothing, and it reports a circuit of
every strongly connected component that has one. -/
theorem closing_steps_feedback (graph : Adjacency) :
    (∀ walk, graph.IsClosedWalk walk → (∃ node ∈ walk, ∃ other ∈ walk, node ≠ other) →
        ∃ circuit ∈ circuits graph, ∃ last ∈ circuit.getLast?, ∃ first ∈ circuit.head?,
          [last, first] <:+: walk) ∧
      (circuits graph = [] ↔ ∀ nodes, ¬graph.IsCircuit nodes) ∧
      (∀ bound, 1 ≤ bound → (circuits graph = [] ↔ (Circuits.enumerate graph bound).1 = [])) ∧
      ∀ node other, graph.Linked node other → node ≠ other →
        ∃ circuit ∈ circuits graph, ∀ member ∈ circuit, graph.Linked node member := by
  refine ⟨?_, circuits_eq_nil_iff, ?_, fun _ _ => exists_circuit_of_linked⟩
  · rintro walk closed ⟨node, member, other, otherMember, different⟩
    obtain ⟨last, first, ⟨circuit, found, atLast, atFirst⟩, step⟩ :=
      exists_closes_of_closedWalk closed member otherMember different
    exact ⟨circuit, found, last, atLast, first, atFirst, step⟩
  · intro bound positive
    rw [circuits_eq_nil_iff, Circuits.enumerate_eq_nil_iff positive]

/-- The circuit of this walk is not reported; its last step closes another one. -/
theorem closing_steps_feedback_overlapping :
    Circuits.overlapping.IsClosedWalk ["a", "c", "a"] ∧
      (∃ circuit ∈ circuits Circuits.overlapping, ∃ last ∈ circuit.getLast?, ∃ first ∈ circuit.head?,
        [last, first] <:+: ["a", "c", "a"]) ∧
      circuits Circuits.overlapping ≠ [] ∧ (Circuits.enumerate Circuits.overlapping 1).1 ≠ [] ∧
      ∃ circuit ∈ circuits Circuits.overlapping,
        ∀ member ∈ circuit, Circuits.overlapping.Linked "a" member := by
  have closed : Circuits.overlapping.IsClosedWalk ["a", "c", "a"] := by decide +kernel
  have isCircuit : Circuits.overlapping.IsCircuit ["a", "c"] := by decide +kernel
  obtain ⟨feedback, acyclic, agree, component⟩ := closing_steps_feedback Circuits.overlapping
  have reported : circuits Circuits.overlapping ≠ [] := fun empty => acyclic.mp empty _ isCircuit
  exact ⟨closed, feedback _ closed ⟨"a", by simp, "c", by simp, by simp⟩, reported,
    fun empty => reported ((agree 1 le_rfl).mpr empty),
    component "a" "c" (isCircuit.linked (by simp) (by simp)) (by simp)⟩

/-- Two reported circuits are never rotations of each other: both stand in the order of the descent,
and that has no name twice. -/
theorem circuits_pairwise_not_isRotated (graph : Adjacency) :
    (circuits graph).Pairwise fun circuit other => ¬circuit.IsRotated other := by
  refine (circuits_nodup graph).imp_of_mem fun found otherFound different rotated => different ?_
  exact eq_of_sublist_of_perm (order_nodup graph) (sublist_order_of_mem found)
    (sublist_order_of_mem otherFound) rotated.perm

theorem leastFirst_circuits_nodup (graph : Adjacency) : ((circuits graph).map leastFirst).Nodup := by
  refine List.pairwise_map.mpr ((circuits_pairwise_not_isRotated graph).imp ?_)
  intro circuit other apart same
  exact apart ((leastFirst_isRotated circuit).trans (same ▸ (leastFirst_isRotated other).symm))

/-- The descent reports elementary circuits only, no two of them the same up to rotation, so what it
reports is a part of the complete list. -/
theorem circuits_refine_enumeration (graph : Adjacency) :
    (∀ circuit ∈ circuits graph, graph.IsCircuit circuit) ∧
      ((circuits graph).Pairwise fun circuit other => ¬circuit.IsRotated other) ∧
      ∀ bound, graph.elementaryCycles.ncard ≤ bound →
        (∀ circuit ∈ circuits graph, leastFirst circuit ∈ (Circuits.enumerate graph bound).1) ∧
          (circuits graph).length ≤ (Circuits.enumerate graph bound).1.length := by
  refine ⟨fun _ => isCircuit_of_mem, circuits_pairwise_not_isRotated graph, fun bound room => ?_⟩
  rw [Circuits.enumerate_of_room room]
  have listed {circuit : List String} (found : circuit ∈ circuits graph) :
      leastFirst circuit ∈ Circuits.listing graph :=
    Circuits.leastFirst_mem_listing (isCircuit_of_mem found)
  refine ⟨fun _ => listed, ?_⟩
  have part : (circuits graph).map leastFirst ⊆ Circuits.listing graph := by
    intro nodes member
    obtain ⟨circuit, found, rfl⟩ := List.mem_map.mp member
    exact listed found
  have count := ((leastFirst_circuits_nodup graph).subperm part).length_le
  rwa [List.length_map] at count

theorem circuits_refine_enumeration_overlapping :
    Circuits.overlapping.elementaryCycles.ncard ≤ 3 ∧
      circuits Circuits.overlapping = [["a", "b"], ["a", "b", "c"]] ∧
      Circuits.overlapping.IsCircuit ["a", "b", "c"] ∧ ¬["a", "b"].IsRotated ["a", "b", "c"] ∧
      leastFirst ["a", "b", "c"] ∈ (Circuits.enumerate Circuits.overlapping 3).1 ∧
      2 ≤ (Circuits.enumerate Circuits.overlapping 3).1.length := by
  have reported : circuits Circuits.overlapping = [["a", "b"], ["a", "b", "c"]] := by decide +kernel
  obtain ⟨sound, apart, refines⟩ := circuits_refine_enumeration Circuits.overlapping
  obtain ⟨listed, fewer⟩ := refines 3 Circuits.overlapping_room
  rw [reported] at sound apart listed fewer
  exact ⟨Circuits.overlapping_room, reported, sound _ (by simp), List.pairwise_pair.mp apart,
    listed _ (by simp), fewer⟩

end Descent

end CodeSurvey
