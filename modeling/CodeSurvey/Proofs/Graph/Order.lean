import CodeSurvey.Proofs.Graph.Dependency
import CodeSurvey.Proofs.Graph.Strategies

namespace CodeSurvey.Descent

variable {graph : Adjacency}

/-- A descent leaves only nodes that it reaches. -/
theorem mem_leave {depth : Nat} {state : NameSet × List String} {node other : String}
    (left : other ∈ (leave graph depth state node).2) : other ∈ state.2 ∨ graph.Reaches node other := by
  induction depth generalizing state node with
  | zero => exact Or.inl left
  | succ depth ih =>
    obtain ⟨entered, order⟩ := state
    by_cases member : node ∈ entered
    · rw [leave_of_mem member] at left
      exact Or.inl left
    rw [leave_succ member] at left
    rcases List.mem_cons.mp left with rfl | below
    · exact Or.inr .refl
    refine List.foldlRecOn
      (motive := fun state => other ∈ state.2 → other ∈ order ∨ graph.Reaches node other)
      (graph.targets node) (leave graph depth) Or.inl ?_ below
    intro state before target edge after
    exact (ih after).elim before fun path => Or.inr (.head edge path)

theorem exists_root_of_mem_order {node : String} (member : node ∈ order graph) :
    ∃ root ∈ graph, graph.Reaches root node := by
  refine List.foldlRecOn
    (motive := fun state => node ∈ state.2 → ∃ root ∈ graph, graph.Reaches root node)
    graph.keys (leave graph (nodeBound graph)) (by simp) ?_ member
  intro state before root key after
  exact (mem_leave after).elim before fun path => ⟨root, Std.ExtTreeMap.mem_keys.mp key, path⟩

/-- An edge on no closed walk leads forward, since a circuit that closes with it would lead back. -/
theorem forward_of_not_reaches {node target : String} (edge : graph.Edge node target)
    (noReturn : ¬graph.Reaches target node) : [node, target].Sublist (order graph) := by
  have different : target ≠ node := fun same => noReturn (same ▸ .refl)
  rcases forward_or_closes edge different with forward | ⟨circuit, found, atLast, atFirst⟩
  · exact forward
  · exact absurd ((isCircuit_of_mem found).reaches (List.mem_of_mem_head? atFirst)
      (List.mem_of_getLast? atLast)) noReturn

theorem mem_order_of_edge {node target : String} (edge : graph.Edge node target) :
    target ∈ order graph := by
  by_cases same : target = node
  · exact mem_order_of_mem (same ▸ edge.source_mem)
  rcases forward_or_closes edge same with forward | ⟨circuit, found, _, atFirst⟩
  · exact forward.subset (by simp)
  · exact (sublist_order_of_mem found).subset (List.mem_of_mem_head? atFirst)

theorem mem_order {node : String} :
    node ∈ order graph ↔ node ∈ graph ∨ ∃ source, graph.Edge source node := by
  constructor
  · intro member
    obtain ⟨root, key, path⟩ := exists_root_of_mem_order member
    rcases Relation.ReflTransGen.cases_tail path with same | ⟨source, _, edge⟩
    · exact Or.inl (same ▸ key)
    · exact Or.inr ⟨source, edge⟩
  · rintro (key | ⟨source, edge⟩)
    · exact mem_order_of_mem key
    · exact mem_order_of_edge edge

/-- A reported circuit stands in the order as it was walked, so the edge that closes it leads back. -/
theorem not_forward_of_mem_circuits {circuit : List String} (found : circuit ∈ circuits graph) :
    ∃ node target, graph.Edge node target ∧ node ≠ target ∧ ¬[node, target].Sublist (order graph) := by
  have isCircuit := isCircuit_of_mem found
  have several := isCircuit.several
  match circuit with
  | first :: second :: rest =>
    obtain ⟨last, atLast⟩ : ∃ last, (second :: rest).getLast? = some last :=
      ⟨_, List.getLast?_eq_some_getLast (List.cons_ne_nil _ _)⟩
    have later : last ∈ second :: rest := List.mem_of_getLast? atLast
    have walked : [first, last].Sublist (order graph) :=
      (List.cons_sublist_cons.mpr (List.singleton_sublist.mpr later)).trans (sublist_order_of_mem found)
    have before := idxOf_lt_of_sublist (order_nodup graph) walked
    refine ⟨last, first, isCircuit.closes last ?_ first rfl, ?_, fun back => ?_⟩
    · rw [List.getLast?_cons_cons, atLast]
      rfl
    · exact fun same => (List.nodup_cons.mp isCircuit.distinct).1 (same ▸ later)
    · exact Nat.lt_asymm before (idxOf_lt_of_sublist (order_nodup graph) back)

theorem forward_iff_circuits_eq_nil :
    (∀ node target, graph.Edge node target → node ≠ target → [node, target].Sublist (order graph)) ↔
      circuits graph = [] := by
  constructor
  · intro forward
    refine List.eq_nil_iff_forall_not_mem.mpr fun circuit found => ?_
    obtain ⟨node, target, edge, different, back⟩ := not_forward_of_mem_circuits found
    exact back (forward node target edge different)
  · intro none node target edge different
    rcases forward_or_closes edge different.symm with forward | ⟨circuit, found, _⟩
    · exact forward
    · rw [none] at found
      exact absurd found List.not_mem_nil

/-- The graph of a model leads nowhere else, so the order lists the names of the model. -/
theorem order_perm_names {model : Model} (keyed : model.Keyed) :
    (order (DependencyGraph.build model).classDependencies).Perm model.names := by
  refine (List.perm_ext_iff_of_nodup (order_nodup _) model.names_nodup).mpr fun name => ?_
  rw [mem_order, DependencyGraph.mem_classDependencies keyed, Model.mem_names]
  exact or_iff_left_of_imp fun ⟨_, edge⟩ => DependencyGraph.contains_of_edge keyed edge

/-- The order lists the keys and the targets and nothing else. An edge goes backward in it only on a
cycle, and none does when the descent reports no circuit. -/
theorem order_topological (graph : Adjacency) :
    (order graph).Nodup ∧
      (∀ name, name ∈ order graph ↔ name ∈ graph ∨ ∃ source, graph.Edge source name) ∧
      (∀ node target, graph.Edge node target → ¬graph.Reaches target node →
        [node, target].Sublist (order graph)) ∧
      ((∀ node target, graph.Edge node target → node ≠ target →
        [node, target].Sublist (order graph)) ↔ circuits graph = []) ∧
      ∀ entities, (order (DependencyGraph.build (Model.ofList entities)).classDependencies).Perm
        (Model.ofList entities).names :=
  ⟨order_nodup graph, fun _ => mem_order, fun _ _ => forward_of_not_reaches,
    forward_iff_circuits_eq_nil, fun entities => order_perm_names (Model.ofList_keyed entities)⟩

/-- The one edge that leaves the component of the other three leads forward; not all the others can. -/
theorem order_topological_overlapping :
    Circuits.overlapping.Edge "c" "z" ∧ ¬Circuits.overlapping.Reaches "z" "c" ∧
      ["c", "z"].Sublist (order Circuits.overlapping) ∧
      ¬∀ node target, Circuits.overlapping.Edge node target → node ≠ target →
        [node, target].Sublist (order Circuits.overlapping) := by
  have edge : Circuits.overlapping.Edge "c" "z" := by decide +kernel
  have noReturn : ¬Circuits.overlapping.Reaches "z" "c" := by
    rw [← Adjacency.mem_reachable]
    decide +kernel
  have reported : circuits Circuits.overlapping ≠ [] := by decide +kernel
  obtain ⟨_, _, forward, acyclic, _⟩ := order_topological Circuits.overlapping
  exact ⟨edge, noReturn, forward _ _ edge noReturn, fun all => reported (acyclic.mp all)⟩

end CodeSurvey.Descent
