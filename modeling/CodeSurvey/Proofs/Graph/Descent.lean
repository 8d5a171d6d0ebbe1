import CodeSurvey.Graph.Descent
import CodeSurvey.Proofs.Graph.Component

namespace CodeSurvey.Descent

open Adjacency

variable {graph : Adjacency}

/-- Some circuit of the list ends with an edge from `node` to `target`. -/
def Closes (circuits : List (List String)) (node target : String) : Prop :=
  ∃ circuit ∈ circuits, circuit.getLast? = some node ∧ circuit.head? = some target

theorem Closes.mono {circuits more : List (List String)} {node target : String}
    (closes : Closes circuits node target) (subset : circuits ⊆ more) : Closes more node target := by
  obtain ⟨circuit, member, ends⟩ := closes
  exact ⟨circuit, subset member, ends⟩

/-- One step of `walk` at the end of a path. -/
def descend (graph : Adjacency) (depth : Nat) (node : String) (above : List String) (trail : Trail)
    (next : String) : Trail :=
  if next = node then trail
  else if !trail.entered.contains next then walk graph depth next (node :: above) trail
  else if (node :: above).contains next then
    { trail with circuits := closing (node :: above) next :: trail.circuits }
  else trail

theorem walk_succ (graph : Adjacency) (depth : Nat) (node : String) (above : List String)
    (trail : Trail) : walk graph (depth + 1) node above trail =
      (graph.targets node).foldl (descend graph depth node above)
        { trail with entered := trail.entered.insert node } :=
  rfl

theorem leave_of_mem {depth : Nat} {entered : NameSet} {order : List String} {node : String}
    (member : node ∈ entered) : leave graph depth (entered, order) node = (entered, order) := by
  cases depth with
  | zero => rfl
  | succ depth =>
    rw [leave, if_pos (Std.ExtTreeSet.contains_iff_mem.mpr member)]

theorem leave_succ {entered : NameSet} {node : String} (fresh : node ∉ entered) (depth : Nat)
    (order : List String) : leave graph (depth + 1) (entered, order) node =
      (((graph.targets node).foldl (leave graph depth) (entered.insert node, order)).1,
        node :: ((graph.targets node).foldl (leave graph depth) (entered.insert node, order)).2) := by
  have missing : ¬ entered.contains node = true := fun found =>
    fresh (Std.ExtTreeSet.contains_iff_mem.mp found)
  rw [leave, if_neg missing]

/-- What is known with a path open, its latest node first. `order` holds the nodes that were left, the
latest first. The circuits are parts of the path followed by that order, so which node of a circuit
comes first is settled. An edge of a node that was left leads forward unless it closes a circuit. -/
structure Laid (graph : Adjacency) (path : List String) (trail : Trail) (order : List String) : Prop where
  entered : ∀ node, node ∈ trail.entered ↔ node ∈ path ∨ node ∈ order
  distinct : (path.reverse ++ order).Nodup
  steps : path.reverse.IsChain graph.Edge
  circuits : ∀ circuit ∈ trail.circuits,
    graph.IsCircuit circuit ∧ circuit.Sublist (path.reverse ++ order)
  once : trail.circuits.Nodup
  settled : ∀ node ∈ order, ∀ target, graph.Edge node target → target ≠ node →
    [node, target].Sublist order ∨ Closes trail.circuits node target

namespace Laid

variable {above path order : List String} {trail : Trail} {node : String}

theorem mem_entered_of_mem (laid : Laid graph path trail order) {circuit : List String}
    (found : circuit ∈ trail.circuits) (member : node ∈ circuit) : node ∈ trail.entered := by
  have inside := (laid.circuits circuit found).2.subset member
  rw [laid.entered]
  exact (List.mem_append.mp inside).imp_left List.mem_reverse.mp

/-- A node is entered: it becomes the end of the path. -/
theorem enter (laid : Laid graph above trail order) (fresh : node ∉ trail.entered)
    (edge : ∀ top ∈ above.head?, graph.Edge top node) :
    Laid graph (node :: above) { trail with entered := trail.entered.insert node } order where
  entered := by
    intro name
    rw [NameSet.mem_insert, laid.entered, List.mem_cons, or_assoc]
  distinct := by
    rw [laid.entered, not_or] at fresh
    rw [List.reverse_cons, List.append_assoc, List.singleton_append, List.nodup_middle,
      List.nodup_cons, List.mem_append, List.mem_reverse]
    exact ⟨fun found => found.elim fresh.1 fresh.2, laid.distinct⟩
  steps := by
    rw [List.reverse_cons, List.isChain_append, List.getLast?_reverse]
    refine ⟨laid.steps, .singleton node, fun top atTop name atName => ?_⟩
    cases atName
    exact edge top atTop
  circuits := by
    intro circuit found
    obtain ⟨isCircuit, part⟩ := laid.circuits circuit found
    rw [List.reverse_cons, List.append_assoc]
    exact ⟨isCircuit, part.trans ((List.Sublist.refl _).append (List.sublist_cons_self node order))⟩
  once := laid.once
  settled := laid.settled

/-- A node is left when each of its edges leads to a node left before or closes a circuit. -/
theorem exit (laid : Laid graph (node :: above) trail order)
    (targets : ∀ target, graph.Edge node target → target ≠ node →
      target ∈ order ∨ Closes trail.circuits node target) :
    Laid graph above trail (node :: order) := by
  have same : (node :: above).reverse ++ order = above.reverse ++ node :: order := by
    rw [List.reverse_cons, List.append_assoc]
    rfl
  refine ⟨?_, same ▸ laid.distinct, ?_, same ▸ laid.circuits, laid.once, ?_⟩
  · intro name
    rw [laid.entered, List.mem_cons, List.mem_cons]
    tauto
  · have steps := laid.steps
    rw [List.reverse_cons] at steps
    exact steps.left_of_append
  · intro name member target edge different
    rcases List.mem_cons.mp member with rfl | member
    · rcases targets target edge different with left | closes
      · exact Or.inl ((List.singleton_sublist.mpr left).cons_cons name)
      · exact Or.inr closes
    · rcases laid.settled name member target edge different with forward | closes
      · exact Or.inl (forward.cons node)
      · exact Or.inr closes

end Laid

/-- The part of a path from one of its nodes on. -/
theorem closing_eq {path : List String} {node : String} (member : node ∈ path) :
    ∃ front back, path = front ++ node :: back ∧ closing path node = node :: front.reverse := by
  obtain ⟨front, back, split, fresh⟩ := List.eq_append_cons_of_mem member
  refine ⟨front, back, split, ?_⟩
  have before : ∀ other ∈ front, (other != node) = true := by
    intro other found
    exact bne_iff_ne.mpr fun same => fresh (same ▸ found)
  have taken : path.takeWhile (· != node) = front := by
    rw [split, List.takeWhile_append_of_pos before, List.takeWhile_cons_of_neg (by simp),
      List.append_nil]
  rw [closing, taken, List.reverse_append]
  rfl

/-- An edge from the end of a path back to one of its other nodes closes a circuit, and the path ends
with that circuit. -/
theorem Laid.closing_isCircuit {above order : List String} {trail : Trail} {node next : String}
    (laid : Laid graph (node :: above) trail order) (edge : graph.Edge node next)
    (onPath : next ∈ node :: above) (different : next ≠ node) :
    graph.IsCircuit (closing (node :: above) next) ∧
      (closing (node :: above) next).IsSuffix (node :: above).reverse ∧
      (closing (node :: above) next).getLast? = some node ∧
      (closing (node :: above) next).head? = some next := by
  obtain ⟨front, back, split, same⟩ := closing_eq onPath
  obtain ⟨rest, rfl⟩ : ∃ rest, front = node :: rest := by
    cases front with
    | nil => exact absurd (List.cons.inj split).1.symm different
    | cons top rest => exact ⟨rest, by rw [(List.cons.inj split).1]⟩
  have suffix : (closing (node :: above) next).IsSuffix (node :: above).reverse := by
    refine ⟨back.reverse, ?_⟩
    rw [same, split]
    simp
  have atLast : (closing (node :: above) next).getLast? = some node := by
    rw [same, List.reverse_cons, ← List.cons_append, List.getLast?_concat]
  have atFirst : (closing (node :: above) next).head? = some next := by
    rw [same, List.head?_cons]
  refine ⟨⟨?_, ?_, laid.steps.suffix suffix, ?_⟩, suffix, atLast, atFirst⟩
  · exact (suffix.sublist.trans (List.sublist_append_left _ _)).nodup laid.distinct
  · rw [same, List.length_cons, List.length_reverse, List.length_cons]
    omega
  · intro last found first foundFirst
    cases atLast.symm.trans found
    cases atFirst.symm.trans foundFirst
    exact edge

/-- The descent goes on with a path open. `walk` and `leave` enter the same nodes; nodes that were left
and circuits that were closed stay; and a new circuit is of the kind that `allowed` admits. -/
structure Continues (graph : Adjacency) (path : List String) (allowed : List String → Prop)
    (trail : Trail) (order : List String) (later : Trail) (state : NameSet × List String) : Prop where
  entered : state.1 = later.entered
  laid : Laid graph path later state.2
  order : order.IsSuffix state.2
  circuits : trail.circuits ⊆ later.circuits
  added : ∀ circuit ∈ later.circuits, circuit ∈ trail.circuits ∨ allowed circuit

/-- A circuit that ends in a node not entered before. -/
def EndsOff (entered : NameSet) (circuit : List String) : Prop :=
  ∀ last ∈ circuit.getLast?, last ∉ entered

namespace Continues

variable {path order : List String} {allowed permitted : List String → Prop} {trail middle later : Trail}
  {state next : NameSet × List String}

theorem refl (laid : Laid graph path trail order) :
    Continues graph path allowed trail order trail (trail.entered, order) where
  entered := rfl
  laid := laid
  order := List.suffix_rfl
  circuits := List.Subset.refl _
  added := fun _ member => Or.inl member

theorem mono (continues : Continues graph path allowed trail order later state)
    (weaker : ∀ circuit, allowed circuit → permitted circuit) :
    Continues graph path permitted trail order later state where
  entered := continues.entered
  laid := continues.laid
  order := continues.order
  circuits := continues.circuits
  added := fun circuit member => (continues.added circuit member).imp_right (weaker circuit)

theorem trans (first : Continues graph path allowed trail order middle state)
    (second : Continues graph path allowed middle state.2 later next) :
    Continues graph path allowed trail order later next where
  entered := second.entered
  laid := second.laid
  order := first.order.trans second.order
  circuits := List.Subset.trans first.circuits second.circuits
  added := by
    intro circuit member
    rcases second.added circuit member with found | added
    · exact first.added circuit found
    · exact Or.inr added

theorem state_eq (continues : Continues graph path allowed trail order later state) :
    state = (later.entered, state.2) := by
  rw [← continues.entered]

theorem entered_mono (continues : Continues graph path allowed trail order later state)
    (laid : Laid graph path trail order) {node : String} (member : node ∈ trail.entered) :
    node ∈ later.entered := by
  rw [laid.entered] at member
  rw [continues.laid.entered]
  exact member.imp_right fun found => continues.order.subset found

end Continues

/-- What a walk from a fresh node comes to: it is left, and every new circuit ends in a node that was
entered on the way. -/
structure Walks (graph : Adjacency) (depth : Nat) (node : String) (above : List String) (trail : Trail)
    (order : List String) : Prop where
  continues : Continues graph above (EndsOff trail.entered) trail order
    (walk graph depth node above trail) (leave graph depth (trail.entered, order) node)
  left : node ∈ (leave graph depth (trail.entered, order) node).2

section Steps

variable {depth : Nat} {node : String} {above : List String}
  (run : ∀ (next : String) (trail : Trail) (order : List String),
    Laid graph (node :: above) trail order → next ∉ trail.entered → graph.Edge node next →
    Walks graph depth next (node :: above) trail order)

include run

/-- One step from the end of a path. Afterwards the next node was left, or its edge closes a circuit. A
new circuit that ends in the last node of the path starts at the next node. -/
theorem descend_continues {trail : Trail} {order : List String} (laid : Laid graph (node :: above) trail order)
    {next : String} (edge : graph.Edge node next)
    (unreported : ∀ circuit ∈ trail.circuits, circuit.getLast? = some node → circuit.head? ≠ some next) :
    Continues graph (node :: above)
        (fun circuit => circuit.getLast? = some node ∧ circuit.head? = some next ∨
          EndsOff trail.entered circuit)
        trail order (descend graph depth node above trail next)
        (leave graph depth (trail.entered, order) next) ∧
      (next ≠ node → next ∈ (leave graph depth (trail.entered, order) next).2 ∨
        Closes (descend graph depth node above trail next).circuits node next) := by
  unfold descend
  by_cases same : next = node
  · have entered : next ∈ trail.entered := by
      rw [laid.entered, same]
      exact Or.inl (List.mem_cons_self ..)
    rw [if_pos same, leave_of_mem entered]
    exact ⟨.refl laid, fun different => absurd same different⟩
  rw [if_neg same]
  by_cases entered : next ∈ trail.entered
  · rw [if_neg (by simp [entered]), leave_of_mem entered]
    by_cases onPath : next ∈ node :: above
    · rw [if_pos (List.contains_iff_mem.mpr onPath)]
      obtain ⟨isCircuit, suffix, atLast, atFirst⟩ := laid.closing_isCircuit edge onPath same
      have new : closing (node :: above) next ∉ trail.circuits := fun found =>
        unreported _ found atLast atFirst
      have subset : trail.circuits ⊆ closing (node :: above) next :: trail.circuits :=
        List.subset_cons_self _ _
      refine ⟨⟨rfl, ⟨laid.entered, laid.distinct, laid.steps, ?_, ?_, ?_⟩, List.suffix_rfl, subset, ?_⟩, ?_⟩
      · intro circuit found
        rcases List.mem_cons.mp found with rfl | found
        · exact ⟨isCircuit, suffix.sublist.trans (List.sublist_append_left _ _)⟩
        · exact laid.circuits circuit found
      · exact List.nodup_cons.mpr ⟨new, laid.once⟩
      · intro name member target step different
        exact (laid.settled name member target step different).imp_right fun closes => closes.mono subset
      · intro circuit found
        rcases List.mem_cons.mp found with rfl | found
        · exact Or.inr (Or.inl ⟨atLast, atFirst⟩)
        · exact Or.inl found
      · exact fun _ => Or.inr ⟨_, List.mem_cons_self .., atLast, atFirst⟩
    · rw [if_neg fun found => onPath (List.contains_iff_mem.mp found)]
      exact ⟨.refl laid, fun _ => Or.inl (((laid.entered next).mp entered).resolve_left onPath)⟩
  · have free : trail.entered.contains next = false := by
      rwa [← Bool.not_eq_true, Std.ExtTreeSet.contains_iff_mem]
    rw [if_pos (by rw [free]; rfl)]
    have walks := run next trail order laid entered edge
    exact ⟨walks.continues.mono fun circuit => Or.inr, fun _ => Or.inl walks.left⟩

/-- All steps from the end of a path, each to a different node. -/
theorem foldl_descend_continues {steps : List String} (edges : ∀ next ∈ steps, graph.Edge node next)
    (different : steps.Nodup) {trail : Trail} {order : List String} (laid : Laid graph (node :: above) trail order)
    (unreported : ∀ circuit ∈ trail.circuits, circuit.getLast? = some node →
      ∀ next ∈ steps, circuit.head? ≠ some next) :
    Continues graph (node :: above)
        (fun circuit => circuit.getLast? = some node ∨ EndsOff trail.entered circuit) trail order
        (steps.foldl (descend graph depth node above) trail)
        (steps.foldl (leave graph depth) (trail.entered, order)) ∧
      ∀ next ∈ steps, next ≠ node →
        next ∈ (steps.foldl (leave graph depth) (trail.entered, order)).2 ∨
          Closes (steps.foldl (descend graph depth node above) trail).circuits node next := by
  induction steps generalizing trail order with
  | nil => exact ⟨.refl laid, by simp⟩
  | cons next rest ih =>
    obtain ⟨unique, restDifferent⟩ := List.nodup_cons.mp different
    obtain ⟨first, settled⟩ := descend_continues run laid (edges next (List.mem_cons_self ..))
      fun circuit found atLast => unreported circuit found atLast next (List.mem_cons_self ..)
    have entered : node ∈ trail.entered := (laid.entered node).mpr (Or.inl (List.mem_cons_self ..))
    have stillUnreported : ∀ circuit ∈ (descend graph depth node above trail next).circuits,
        circuit.getLast? = some node → ∀ other ∈ rest, circuit.head? ≠ some other := by
      intro circuit found atLast other member atFirst
      rcases first.added circuit found with before | ⟨_, atNext⟩ | off
      · exact unreported circuit before atLast other (List.mem_cons_of_mem _ member) atFirst
      · cases atNext.symm.trans atFirst
        exact unique member
      · exact off node atLast entered
    obtain ⟨later, laterSettled⟩ := ih (fun other member => edges other (List.mem_cons_of_mem _ member))
      restDifferent first.laid stillUnreported
    rw [List.foldl_cons, List.foldl_cons, first.state_eq]
    refine ⟨(first.mono ?_).trans (later.mono ?_), ?_⟩
    · rintro circuit (⟨atLast, _⟩ | off)
      · exact Or.inl atLast
      · exact Or.inr off
    · rintro circuit (atLast | off)
      · exact Or.inl atLast
      · exact Or.inr fun last atLast member => off last atLast (first.entered_mono laid member)
    · intro other member notNode
      rcases List.mem_cons.mp member with rfl | member
      · rcases settled notNode with left | closes
        · exact Or.inl (later.order.subset left)
        · exact Or.inr (closes.mono later.circuits)
      · exact laterSettled other member notNode

end Steps

/-- A walk from a fresh node. The nodes of a path are distinct, so a depth beyond the number of all
nodes is never used up. -/
theorem walk_walks {nodes : List String} (inside : ∀ source target, graph.Edge source target → target ∈ nodes)
    {depth : Nat} {node : String} {above : List String} {trail : Trail} {order : List String}
    (laid : Laid graph above trail order) (fresh : node ∉ trail.entered)
    (edge : ∀ top ∈ above.head?, graph.Edge top node) (member : node ∈ nodes) (aboveInside : above ⊆ nodes)
    (enough : nodes.length < depth + above.length) : Walks graph depth node above trail order := by
  have entered := laid.enter fresh edge
  have pathInside : node :: above ⊆ nodes := List.cons_subset.mpr ⟨member, aboveInside⟩
  induction depth generalizing node above trail order with
  | zero =>
    have distinct := (List.nodup_append.mp entered.distinct).1
    have bound := ((List.nodup_reverse.mp distinct).subperm pathInside).length_le
    rw [List.length_cons] at bound
    omega
  | succ depth ih =>
    have run : ∀ (next : String) (trail : Trail) (order : List String),
        Laid graph (node :: above) trail order → next ∉ trail.entered → graph.Edge node next →
        Walks graph depth next (node :: above) trail order := by
      intro next trail order nextLaid nextFresh step
      have nextEdge : ∀ top ∈ (node :: above).head?, graph.Edge top next := by
        intro top atTop
        cases atTop
        exact step
      refine ih nextLaid nextFresh nextEdge (inside node next step) pathInside ?_
        (nextLaid.enter nextFresh nextEdge) (List.cons_subset.mpr ⟨inside node next step, pathInside⟩)
      rw [List.length_cons]
      omega
    have unreported : ∀ circuit ∈ trail.circuits, circuit.getLast? = some node →
        ∀ next ∈ graph.targets node, circuit.head? ≠ some next := fun circuit found atLast =>
      absurd (laid.mem_entered_of_mem found (List.mem_of_getLast? atLast)) fresh
    obtain ⟨continues, settled⟩ := foldl_descend_continues run (fun next step => step)
      (graph.targets_nodup node) entered unreported
    have left := continues.laid.exit settled
    refine ⟨?_, ?_⟩
    · rw [walk_succ, leave_succ fresh]
      refine ⟨continues.entered, left, continues.order.trans (List.suffix_cons _ _),
        continues.circuits, ?_⟩
      intro circuit found
      rcases continues.added circuit found with before | atLast | off
      · exact Or.inl before
      · refine Or.inr fun last isLast => ?_
        cases atLast.symm.trans isLast
        exact fresh
      · exact Or.inr fun last isLast member =>
          off last isLast (NameSet.mem_insert.mpr (Or.inr member))
    · rw [leave_succ fresh]
      exact List.mem_cons_self ..

/-- The keys, and the targets of all keys with their repetitions. -/
def names (graph : Adjacency) : List String :=
  graph.keys ++ graph.toList.flatMap fun entry => entry.2.toList

theorem mem_names_of_edge (source target : String) (edge : graph.Edge source target) :
    target ∈ names graph := by
  obtain ⟨set, atSource, member⟩ := edge_iff.mp edge
  refine List.mem_append_right _ (List.mem_flatMap.mpr ⟨(source, set), ?_, ?_⟩)
  · exact Std.ExtTreeMap.mem_toList_iff_getElem?_eq_some.mpr atSource
  · exact Std.ExtTreeSet.mem_toList.mpr member

theorem length_names_lt (graph : Adjacency) : (names graph).length < nodeBound graph := by
  have count : ∀ entries : List (String × NameSet),
      (entries.flatMap fun entry => entry.2.toList).length = sumOf (·.size) (entries.map (·.2)) := by
    intro entries
    induction entries with
    | nil => rfl
    | cons entry rest ih =>
      rw [List.flatMap_cons, List.length_append, ih, Std.ExtTreeSet.length_toList]
      rfl
  rw [names, List.length_append, count, ← NameMap.values_eq_map_toList, Std.ExtTreeMap.length_keys]
  exact Nat.lt_succ_self _

/-- A root is walked from unless it was entered before. -/
def fromRoot (graph : Adjacency) (trail : Trail) (root : String) : Trail :=
  if trail.entered.contains root then trail else walk graph (nodeBound graph) root [] trail

/-- The state after all roots. -/
def finish (graph : Adjacency) : Trail :=
  graph.keys.foldl (fromRoot graph) {}

theorem circuits_eq_reverse (graph : Adjacency) : circuits graph = (finish graph).circuits.reverse :=
  rfl

theorem fromRoot_continues {trail : Trail} {order : List String} (laid : Laid graph [] trail order)
    {root : String} (key : root ∈ graph.keys) :
    Continues graph [] (fun _ => True) trail order (fromRoot graph trail root)
        (leave graph (nodeBound graph) (trail.entered, order) root) ∧
      root ∈ (leave graph (nodeBound graph) (trail.entered, order) root).2 := by
  unfold fromRoot
  by_cases entered : root ∈ trail.entered
  · rw [if_pos (Std.ExtTreeSet.contains_iff_mem.mpr entered), leave_of_mem entered]
    exact ⟨.refl laid, ((laid.entered root).mp entered).resolve_left List.not_mem_nil⟩
  · rw [if_neg fun found => entered (Std.ExtTreeSet.contains_iff_mem.mp found)]
    have walks : Walks graph (nodeBound graph) root [] trail order :=
      walk_walks mem_names_of_edge laid entered (by simp) (List.mem_append_left _ key)
        (List.nil_subset _) (length_names_lt graph)
    exact ⟨walks.continues.mono fun _ _ => trivial, walks.left⟩

theorem foldl_fromRoot_continues {roots : List String} (keys : roots ⊆ graph.keys) {trail : Trail}
    {order : List String} (laid : Laid graph [] trail order) :
    Continues graph [] (fun _ => True) trail order (roots.foldl (fromRoot graph) trail)
        (roots.foldl (leave graph (nodeBound graph)) (trail.entered, order)) ∧
      ∀ root ∈ roots, root ∈ (roots.foldl (leave graph (nodeBound graph)) (trail.entered, order)).2 := by
  induction roots generalizing trail order with
  | nil => exact ⟨.refl laid, by simp⟩
  | cons root rest ih =>
    obtain ⟨key, restKeys⟩ := List.cons_subset.mp keys
    obtain ⟨first, left⟩ := fromRoot_continues laid key
    obtain ⟨later, laterLeft⟩ := ih restKeys first.laid
    rw [List.foldl_cons, List.foldl_cons, first.state_eq]
    refine ⟨first.trans later, fun other member => ?_⟩
    rcases List.mem_cons.mp member with rfl | member
    · exact later.order.subset left
    · exact laterLeft other member

theorem finish_continues (graph : Adjacency) :
    Continues graph [] (fun _ => True) {} [] (finish graph)
        (graph.keys.foldl (leave graph (nodeBound graph)) (∅, [])) ∧
      ∀ root ∈ graph.keys, root ∈ order graph := by
  have start : Laid graph [] {} [] :=
    ⟨by simp, .nil, .nil, by simp, .nil, by simp⟩
  exact foldl_fromRoot_continues (List.Subset.refl _) start

theorem finish_laid (graph : Adjacency) : Laid graph [] (finish graph) (order graph) :=
  (finish_continues graph).1.laid

theorem mem_order_of_mem {node : String} (key : node ∈ graph) : node ∈ order graph :=
  (finish_continues graph).2 node (Std.ExtTreeMap.mem_keys.mpr key)

theorem order_nodup (graph : Adjacency) : (order graph).Nodup :=
  (finish_laid graph).distinct

theorem circuits_nodup (graph : Adjacency) : (circuits graph).Nodup := by
  rw [circuits_eq_reverse, List.nodup_reverse]
  exact (finish_laid graph).once

theorem isCircuit_of_mem {circuit : List String} (member : circuit ∈ circuits graph) :
    graph.IsCircuit circuit := by
  rw [circuits_eq_reverse, List.mem_reverse] at member
  exact ((finish_laid graph).circuits circuit member).1

theorem sublist_order_of_mem {circuit : List String} (member : circuit ∈ circuits graph) :
    circuit.Sublist (order graph) := by
  rw [circuits_eq_reverse, List.mem_reverse] at member
  exact ((finish_laid graph).circuits circuit member).2

/-- Every edge between two nodes leads forward in the order, or a reported circuit ends with it. -/
theorem forward_or_closes {node target : String} (edge : graph.Edge node target)
    (different : target ≠ node) :
    [node, target].Sublist (order graph) ∨ Closes (circuits graph) node target := by
  rcases (finish_laid graph).settled node (mem_order_of_mem edge.source_mem) target edge different with
    forward | closes
  · exact Or.inl forward
  · refine Or.inr (closes.mono fun circuit member => ?_)
    rw [circuits_eq_reverse]
    exact List.mem_reverse.mpr member

end CodeSurvey.Descent
