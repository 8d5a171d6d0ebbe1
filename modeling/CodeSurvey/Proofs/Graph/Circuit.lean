import Mathlib.Data.List.Cycle
import Mathlib.Data.Set.Card
import CodeSurvey.Graph.Reachability
import CodeSurvey.Proofs.NameMap

namespace CodeSurvey

/-- The first node is the least. -/
def StartsLeast (nodes : List String) : Prop :=
  ∃ first, nodes.head? = some first ∧ ∀ node ∈ nodes, first ≤ node

/-- The same nodes in cyclic order, from the least one on. -/
def leastFirst (nodes : List String) : List String :=
  nodes.rotate (nodes.idxOf (nodes.min?.getD ""))

theorem leastFirst_isRotated (nodes : List String) : nodes.IsRotated (leastFirst nodes) :=
  ⟨_, rfl⟩

theorem leastFirst_startsLeast {nodes : List String} (nonempty : nodes ≠ []) :
    StartsLeast (leastFirst nodes) := by
  obtain ⟨least, atLeast⟩ : ∃ least, nodes.min? = some least :=
    Option.ne_none_iff_exists'.mp fun none => nonempty (List.min?_eq_none_iff.mp none)
  obtain ⟨member, below⟩ := List.min?_eq_some_iff.mp atLeast
  have inside : nodes.idxOf least < nodes.length := List.idxOf_lt_length_iff.mpr member
  refine ⟨least, ?_, fun node rotated => below node ((leastFirst_isRotated nodes).mem_iff.mpr rotated)⟩
  rw [leastFirst, atLeast, Option.getD_some, List.head?_rotate inside, List.getElem?_eq_getElem inside,
    List.getElem_idxOf inside]

/-- A list without repetitions has only one rotation that starts at a given node. -/
theorem eq_of_isRotated_of_head {nodes others : List String} (distinct : nodes.Nodup)
    (rotated : nodes.IsRotated others) (sameHead : nodes.head? = others.head?) : nodes = others := by
  obtain ⟨n, bound, rfl⟩ := List.isRotated_iff_mod.mp rotated
  rcases Nat.lt_or_eq_of_le bound with inside | whole
  · rw [List.head?_rotate inside, List.head?_eq_getElem?] at sameHead
    have zero := (List.getElem?_inj (by omega) distinct).mp sameHead
    rw [← zero, List.rotate_zero]
  · rw [whole, List.rotate_length]

theorem StartsLeast.eq_of_isRotated {nodes others : List String} (distinct : nodes.Nodup)
    (rotated : nodes.IsRotated others) (least : StartsLeast nodes) (othersLeast : StartsLeast others) :
    nodes = others := by
  obtain ⟨first, atFirst, below⟩ := least
  obtain ⟨second, atSecond, othersBelow⟩ := othersLeast
  have lower := below second (rotated.mem_iff.mpr (List.mem_of_mem_head? atSecond))
  have upper := othersBelow first (rotated.mem_iff.mp (List.mem_of_mem_head? atFirst))
  exact eq_of_isRotated_of_head distinct rotated
    (by rw [atFirst, atSecond, le_antisymm lower upper])

theorem isChain_and {R S : String → String → Prop} {nodes : List String} (first : nodes.IsChain R)
    (second : nodes.IsChain S) : nodes.IsChain fun node next => R node next ∧ S node next := by
  rw [List.isChain_iff_getElem] at *
  exact fun i inside => ⟨first i inside, second i inside⟩

namespace Adjacency

variable {graph : Adjacency}

/-- One node depends on another. Only keys have edges; an edge may lead to a name that is no key, and
from a node to itself. -/
def Edge (graph : Adjacency) (source target : String) : Prop :=
  target ∈ graph.targets source

instance (graph : Adjacency) (source target : String) : Decidable (graph.Edge source target) :=
  inferInstanceAs (Decidable (target ∈ graph.targets source))

theorem edge_iff {source target : String} :
    graph.Edge source target ↔ ∃ set, graph[source]? = some set ∧ target ∈ set :=
  NameMap.mem_elements_iff

theorem Edge.source_mem {source target : String} (edge : graph.Edge source target) :
    source ∈ graph := by
  obtain ⟨set, atSource, _⟩ := edge_iff.mp edge
  exact Std.ExtTreeMap.mem_iff_isSome_getElem?.mpr (by rw [atSource]; rfl)

theorem targets_ascending (graph : Adjacency) (node : String) :
    (graph.targets node).Pairwise (· < ·) := by
  unfold targets
  split
  · exact NameSet.toList_ascending _
  · exact .nil

theorem targets_nodup (graph : Adjacency) (node : String) : (graph.targets node).Nodup :=
  (graph.targets_ascending node).imp fun before => before.ne

/-- Along any number of edges, none included. -/
def Reaches (graph : Adjacency) : String → String → Prop :=
  Relation.ReflTransGen graph.Edge

instance (graph : Adjacency) : IsTrans String graph.Reaches :=
  ⟨fun _ _ _ there onward => there.trans onward⟩

/-- Two nodes of one strongly connected component. -/
def Linked (graph : Adjacency) (node other : String) : Prop :=
  graph.Reaches node other ∧ graph.Reaches other node

theorem Linked.refl (graph : Adjacency) (node : String) : graph.Linked node node :=
  ⟨.refl, .refl⟩

theorem Linked.symm {node other : String} (linked : graph.Linked node other) :
    graph.Linked other node :=
  ⟨linked.2, linked.1⟩

theorem Linked.trans {node other third : String} (linked : graph.Linked node other)
    (next : graph.Linked other third) : graph.Linked node third :=
  ⟨linked.1.trans next.1, next.2.trans linked.2⟩

/-- An elementary closed path of at least two nodes: they are distinct, each has an edge to the next,
and the last has one to the first. -/
structure IsCircuit (graph : Adjacency) (nodes : List String) : Prop where
  distinct : nodes.Nodup
  several : 2 ≤ nodes.length
  steps : nodes.IsChain graph.Edge
  closes : ∀ last ∈ nodes.getLast?, ∀ first ∈ nodes.head?, graph.Edge last first

instance (graph : Adjacency) (nodes : List String) : Decidable (graph.IsCircuit nodes) :=
  decidable_of_iff (nodes.Nodup ∧ 2 ≤ nodes.length ∧ nodes.IsChain graph.Edge ∧
      ∀ last ∈ nodes.getLast?, ∀ first ∈ nodes.head?, graph.Edge last first)
    ⟨fun ⟨distinct, several, steps, closes⟩ => ⟨distinct, several, steps, closes⟩,
      fun ⟨distinct, several, steps, closes⟩ => ⟨distinct, several, steps, closes⟩⟩

/-- The elementary cycles of at least two nodes, each taken once whatever node it is read from. -/
def elementaryCycles (graph : Adjacency) : Set (Cycle String) :=
  {cycle | ∃ nodes : List String, graph.IsCircuit nodes ∧ (nodes : Cycle String) = cycle}

theorem chain_iff {nodes : List String} (nonempty : nodes ≠ []) :
    (nodes : Cycle String).Chain graph.Edge ↔ nodes.IsChain graph.Edge ∧
      ∀ last ∈ nodes.getLast?, ∀ first ∈ nodes.head?, graph.Edge last first := by
  cases nodes with
  | nil => exact absurd rfl nonempty
  | cons first rest =>
    rw [Cycle.chain_coe_cons, ← List.cons_append, List.isChain_append]
    simp

theorem isCircuit_iff {nodes : List String} :
    graph.IsCircuit nodes ↔
      nodes.Nodup ∧ 2 ≤ nodes.length ∧ (nodes : Cycle String).Chain graph.Edge := by
  constructor
  · rintro ⟨distinct, several, steps, closes⟩
    exact ⟨distinct, several, (chain_iff (List.ne_nil_of_length_pos (by omega))).mpr ⟨steps, closes⟩⟩
  · rintro ⟨distinct, several, chain⟩
    obtain ⟨steps, closes⟩ := (chain_iff (List.ne_nil_of_length_pos (by omega))).mp chain
    exact ⟨distinct, several, steps, closes⟩

namespace IsCircuit

variable {nodes others : List String}

theorem ne_nil (circuit : graph.IsCircuit nodes) : nodes ≠ [] :=
  List.ne_nil_of_length_pos (Nat.lt_of_lt_of_le Nat.zero_lt_two circuit.several)

theorem exists_ne (circuit : graph.IsCircuit nodes) :
    ∃ node ∈ nodes, ∃ other ∈ nodes, node ≠ other := by
  have several := circuit.several
  have distinct := circuit.distinct
  match nodes with
  | node :: other :: _ => exact ⟨node, by simp, other, by simp, by grind⟩

theorem rotated (circuit : graph.IsCircuit nodes) (rotated : nodes.IsRotated others) :
    graph.IsCircuit others := by
  obtain ⟨distinct, several, chain⟩ := isCircuit_iff.mp circuit
  refine isCircuit_iff.mpr ⟨rotated.nodup_iff.mp distinct, ?_, ?_⟩
  · rw [← rotated.perm.length_eq]
    exact several
  · rw [← Cycle.coe_eq_coe.mpr rotated]
    exact chain

theorem reaches (circuit : graph.IsCircuit nodes) {node other : String}
    (member : node ∈ nodes) (otherMember : other ∈ nodes) : graph.Reaches node other := by
  have chain := (isCircuit_iff.mp circuit).2.2
  have paths : (nodes : Cycle String).Chain graph.Reaches :=
    chain.imp fun _ _ edge => Relation.ReflTransGen.single edge
  exact Cycle.chain_iff_pairwise.mp paths node member other otherMember

/-- All nodes of a circuit lie in one strongly connected component. -/
theorem linked (circuit : graph.IsCircuit nodes) {node other : String}
    (member : node ∈ nodes) (otherMember : other ∈ nodes) : graph.Linked node other :=
  ⟨circuit.reaches member otherMember, circuit.reaches otherMember member⟩

/-- A circuit may be read from any of its nodes on. -/
theorem exists_from (circuit : graph.IsCircuit nodes) {node : String} (member : node ∈ nodes) :
    ∃ rest, graph.IsCircuit (node :: rest) := by
  obtain ⟨n, atNode⟩ : ∃ n, (nodes.rotate n).head? = some node := by
    obtain ⟨n, inside, same⟩ := List.getElem_of_mem member
    exact ⟨n, by rw [List.head?_rotate inside, List.getElem?_eq_getElem inside, same]⟩
  have rotated := circuit.rotated ⟨n, rfl⟩
  obtain ⟨rest, split⟩ := List.head?_eq_some_iff.mp atNode
  exact ⟨rest, split ▸ rotated⟩

/-- Every node of a circuit has an edge, so it is a key. -/
theorem source_mem (circuit : graph.IsCircuit nodes) {node : String} (member : node ∈ nodes) :
    node ∈ graph := by
  obtain ⟨rest, fromNode⟩ := circuit.exists_from member
  cases rest with
  | nil => simpa using fromNode.several
  | cons next rest => exact (List.isChain_cons_cons.mp fromNode.steps).1.source_mem

/-- At every node of a circuit an edge arrives. -/
theorem exists_edge_to (circuit : graph.IsCircuit nodes) {node : String} (member : node ∈ nodes) :
    ∃ source, graph.Edge source node := by
  obtain ⟨rest, fromNode⟩ := circuit.exists_from member
  have atLast := List.getLast?_eq_some_getLast (List.cons_ne_nil node rest)
  exact ⟨_, fromNode.closes _ atLast node rfl⟩

theorem leastFirst (circuit : graph.IsCircuit nodes) : graph.IsCircuit (leastFirst nodes) :=
  circuit.rotated (leastFirst_isRotated nodes)

end IsCircuit

end Adjacency

end CodeSurvey
