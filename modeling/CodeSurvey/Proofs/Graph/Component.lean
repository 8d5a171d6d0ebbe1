import Mathlib.Data.List.Sort
import CodeSurvey.Proofs.Graph.Circuit

namespace CodeSurvey

theorem sumOf_le_sumOf {α : Type} {small large : α → Nat} (le : ∀ item, small item ≤ large item)
    (items : List α) : sumOf small items ≤ sumOf large items := by
  induction items with
  | nil => exact le_rfl
  | cons item rest ih => exact Nat.add_le_add (le item) ih

/-- Where one item of a list counts less by `gap` and no item counts more, the sum is less by `gap`. -/
theorem sumOf_add_le_sumOf {α : Type} {items : List α} {item : α} {small large : α → Nat} {gap : Nat}
    (le : ∀ other, small other ≤ large other) (member : item ∈ items)
    (less : small item + gap ≤ large item) :
    sumOf small items + gap ≤ sumOf large items := by
  induction items with
  | nil => simp at member
  | cons other rest ih =>
    simp only [sumOf]
    rcases List.mem_cons.mp member with rfl | later
    · have := sumOf_le_sumOf le rest
      omega
    · have := ih later
      have := le other
      omega

namespace Adjacency

variable {graph : Adjacency}

/-- The edges that leave nodes not yet seen: what `spread` may still put on its list. -/
def unseenEdges (graph : Adjacency) (seen : NameSet) : Nat :=
  sumOf (fun entry : String × NameSet => if entry.1 ∈ seen then 0 else entry.2.size) graph.toList

theorem unseenEdges_empty (graph : Adjacency) : graph.unseenEdges ∅ = graph.edgeTotal := by
  have same : ∀ entries : List (String × NameSet),
      sumOf (fun entry => if entry.1 ∈ (∅ : NameSet) then 0 else entry.2.size) entries =
        sumOf (·.size) (entries.map (·.2)) := by
    intro entries
    induction entries with
    | nil => rfl
    | cons entry rest ih =>
      simp only [sumOf, List.map_cons, ih]
      rw [if_neg Std.ExtTreeSet.not_mem_empty]
  rw [unseenEdges, same, edgeTotal, NameMap.values_eq_map_toList]

/-- A node that is seen for the first time takes its own edges out of the count. -/
theorem unseenEdges_insert (graph : Adjacency) {seen : NameSet} {node : String} (fresh : node ∉ seen) :
    graph.unseenEdges (seen.insert node) + (graph.targets node).length ≤ graph.unseenEdges seen := by
  have shrinks : ∀ entry : String × NameSet,
      (if entry.1 ∈ seen.insert node then 0 else entry.2.size) ≤
        (if entry.1 ∈ seen then 0 else entry.2.size) := by
    intro entry
    by_cases old : entry.1 ∈ seen
    · rw [if_pos (NameSet.mem_insert.mpr (Or.inr old)), if_pos old]
    · rw [if_neg old]
      split <;> omega
  unfold targets
  rw [Std.ExtTreeMap.get?_eq_getElem?]
  cases atNode : graph[node]? with
  | none =>
    exact sumOf_le_sumOf shrinks graph.toList
  | some set =>
    refine sumOf_add_le_sumOf shrinks (Std.ExtTreeMap.mem_toList_iff_getElem?_eq_some.mpr atNode) ?_
    rw [if_pos (NameSet.mem_insert.mpr (Or.inl rfl)), if_neg fresh, Nat.zero_add,
      Std.ExtTreeSet.length_toList]

/-- What `spread` returns holds what it was given and what it had to visit, and every node that it
added is there with all its targets. -/
theorem spread_closed {steps : Nat} {todo : List String} {seen : NameSet}
    (enough : todo.length + graph.unseenEdges seen < steps) :
    (∀ node ∈ seen, node ∈ graph.spread steps todo seen) ∧
      (∀ node ∈ todo, node ∈ graph.spread steps todo seen) ∧
      ∀ node ∈ graph.spread steps todo seen, node ∈ seen ∨
        ∀ target, graph.Edge node target → target ∈ graph.spread steps todo seen := by
  fun_induction spread graph steps todo seen with
  | case1 => omega
  | case2 steps seen => exact ⟨fun _ member => member, by simp, fun _ member => Or.inl member⟩
  | case3 steps node todo seen old ih =>
    rw [List.length_cons] at enough
    obtain ⟨keeps, visits, closed⟩ := ih (by omega)
    refine ⟨keeps, ?_, closed⟩
    intro other member
    rcases List.mem_cons.mp member with rfl | later
    · exact keeps other (Std.ExtTreeSet.contains_iff_mem.mp old)
    · exact visits other later
  | case4 steps node todo seen fresh ih =>
    have new : node ∉ seen := fun member => fresh (Std.ExtTreeSet.contains_iff_mem.mpr member)
    have count := graph.unseenEdges_insert new
    rw [List.length_cons] at enough
    obtain ⟨keeps, visits, closed⟩ := ih (by rw [List.length_append]; omega)
    refine ⟨fun other member => keeps other (NameSet.mem_insert.mpr (Or.inr member)), ?_, ?_⟩
    · intro other member
      rcases List.mem_cons.mp member with rfl | later
      · exact keeps other (NameSet.mem_insert.mpr (Or.inl rfl))
      · exact visits other (List.mem_append_right _ later)
    · intro other member
      rcases closed other member with inserted | targets
      · rcases NameSet.mem_insert.mp inserted with rfl | old
        · exact Or.inr fun target edge => visits target (List.mem_append_left _ edge)
        · exact Or.inl old
      · exact Or.inr targets

theorem spread_sound {steps : Nat} {todo : List String} {seen : NameSet} {other : String}
    (member : other ∈ graph.spread steps todo seen) :
    other ∈ seen ∨ ∃ node ∈ todo, graph.Reaches node other := by
  fun_induction spread graph steps todo seen with
  | case1 => exact Or.inl member
  | case2 => exact Or.inl member
  | case3 steps node todo seen old ih =>
    rcases ih member with before | ⟨source, later, path⟩
    · exact Or.inl before
    · exact Or.inr ⟨source, List.mem_cons_of_mem _ later, path⟩
  | case4 steps node todo seen fresh ih =>
    rcases ih member with before | ⟨source, later, path⟩
    · rcases NameSet.mem_insert.mp before with rfl | old
      · exact Or.inr ⟨other, List.mem_cons_self .., .refl⟩
      · exact Or.inl old
    · rcases List.mem_append.mp later with edge | later
      · exact Or.inr ⟨node, List.mem_cons_self .., .head edge path⟩
      · exact Or.inr ⟨source, List.mem_cons_of_mem _ later, path⟩

theorem mem_reachable {node other : String} :
    other ∈ graph.reachable node ↔ graph.Reaches node other := by
  constructor
  · intro member
    rcases spread_sound member with empty | ⟨source, single, path⟩
    · simp at empty
    · rwa [List.mem_singleton.mp single] at path
  · intro path
    have enough : [node].length + graph.unseenEdges ∅ < graph.edgeTotal + 2 := by
      rw [unseenEdges_empty, List.length_singleton]
      omega
    obtain ⟨_, visits, closed⟩ := spread_closed enough
    induction path with
    | refl => exact visits node (List.mem_singleton_self node)
    | tail _ edge ih =>
      rcases closed _ ih with empty | targets
      · simp at empty
      · exact targets _ edge

theorem mem_closure_targets {node other : String} :
    other ∈ graph.closure.targets node ↔ node ∈ graph ∧ graph.Reaches node other := by
  change graph.closure.Edge node other ↔ _
  rw [edge_iff, closure, Std.ExtTreeMap.getElem?_map, Std.ExtTreeMap.mem_iff_isSome_getElem?,
    ← mem_reachable]
  cases graph[node]? with
  | none => simp
  | some set => simp

theorem Reaches.source_mem {node other : String} (path : graph.Reaches node other)
    (different : node ≠ other) : node ∈ graph := by
  rcases Relation.ReflTransGen.cases_head path with same | ⟨_, edge, _⟩
  · exact absurd same different
  · exact edge.source_mem

/-- The component that is read off the closure is the set of nodes linked to a key. -/
theorem mem_component {node other : String} :
    other ∈ component graph.closure node ↔ node ∈ graph ∧ graph.Linked node other := by
  rw [component, List.mem_filter, List.contains_iff_mem, mem_closure_targets, mem_closure_targets]
  constructor
  · rintro ⟨⟨key, there⟩, _, back⟩
    exact ⟨key, there, back⟩
  · rintro ⟨key, there, back⟩
    by_cases same : other = node
    · exact ⟨⟨key, there⟩, same ▸ key, back⟩
    · exact ⟨⟨key, there⟩, back.source_mem same, back⟩

theorem component_ascending (closure : Adjacency) (node : String) :
    (component closure node).Pairwise (· < ·) :=
  (closure.targets_ascending node).filter _

/-- A strongly connected component of the keys: its members in ascending order. -/
structure IsComponent (graph : Adjacency) (members : List String) : Prop where
  nonempty : members ≠ []
  ascending : members.Pairwise (· < ·)
  keys : ∀ node ∈ members, node ∈ graph
  whole : ∀ node ∈ members, ∀ other, other ∈ members ↔ graph.Linked node other

theorem component_isComponent {node : String} (key : node ∈ graph) :
    graph.IsComponent (component graph.closure node) where
  nonempty := List.ne_nil_of_mem (mem_component.mpr ⟨key, .refl graph node⟩)
  ascending := component_ascending graph.closure node
  keys := by
    intro other member
    obtain ⟨_, linked⟩ := mem_component.mp member
    by_cases same : other = node
    · exact same ▸ key
    · exact linked.2.source_mem same
  whole := by
    intro other member third
    obtain ⟨_, linked⟩ := mem_component.mp member
    rw [mem_component]
    exact ⟨fun found => linked.symm.trans found.2, fun next => ⟨key, linked.trans next⟩⟩

theorem IsComponent.eq_component {members : List String} (whole : graph.IsComponent members)
    {node : String} (member : node ∈ members) : members = component graph.closure node := by
  have key := whole.keys node member
  refine whole.ascending.eq_of_mem_iff (component_ascending graph.closure node) fun other => ?_
  rw [whole.whole node member, mem_component]
  exact ⟨fun linked => ⟨key, linked⟩, fun found => found.2⟩

theorem mem_components {members : List String} :
    members ∈ graph.components ↔ graph.IsComponent members := by
  rw [components, List.mem_filterMap]
  constructor
  · rintro ⟨node, key, found⟩
    obtain ⟨_, same⟩ := Option.ite_none_right_eq_some.mp found
    cases same
    exact component_isComponent (Std.ExtTreeMap.mem_keys.mp key)
  · intro whole
    obtain ⟨least, rest, rfl⟩ := List.exists_cons_of_ne_nil whole.nonempty
    have member : least ∈ least :: rest := List.mem_cons_self ..
    refine ⟨least, Std.ExtTreeMap.mem_keys.mpr (whole.keys least member), ?_⟩
    rw [← whole.eq_component member]
    exact if_pos rfl

/-- Components are listed by their least members. -/
theorem components_ascending (graph : Adjacency) :
    graph.components.Pairwise fun before after =>
      ∀ least ∈ before.head?, ∀ other ∈ after.head?, least < other := by
  refine (NameMap.keys_ascending graph).filterMap _ ?_
  intro node other before members found others otherFound least atLeast otherLeast atOther
  obtain ⟨atNode, same⟩ := Option.ite_none_right_eq_some.mp found
  obtain ⟨atOtherNode, otherSame⟩ := Option.ite_none_right_eq_some.mp otherFound
  cases same
  cases otherSame
  cases atNode.symm.trans atLeast
  cases atOtherNode.symm.trans atOther
  exact before

end Adjacency

end CodeSurvey
