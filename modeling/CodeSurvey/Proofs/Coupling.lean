import CodeSurvey.Coupling
import CodeSurvey.Proofs.Graph.Circuit

namespace CodeSurvey.CouplingReport

/-- Counts a target when it is a key. -/
def countKnown (counts : NameMap Nat) (target : String) : NameMap Nat :=
  if counts.contains target then NameMap.increment counts target else counts

theorem afferentCounts_eq_foldl (graph : Adjacency) :
    afferentCounts graph = (graph.values.flatMap (·.toList)).foldl countKnown (graph.map fun _ _ => 0) :=
  List.foldl_flatMap.symm

theorem getElem?_countKnown (counts : NameMap Nat) (target name : String) :
    (countKnown counts target)[name]? = counts[name]?.map (· + if name = target then 1 else 0) := by
  unfold countKnown
  by_cases same : name = target
  · subst same
    rw [Std.ExtTreeMap.contains_eq_isSome_getElem?]
    cases found : counts[name]? with
    | none => simp [found]
    | some count => simp [NameMap.getElem?_increment, found]
  · split <;> simp [NameMap.getElem?_increment, same]

theorem getElem?_foldl_countKnown (targets : List String) (counts : NameMap Nat) (name : String) :
    (targets.foldl countKnown counts)[name]? = counts[name]?.map (· + targets.count name) := by
  induction targets generalizing counts with
  | nil => simp
  | cons target rest ih =>
    rw [List.foldl_cons, ih, getElem?_countKnown, Option.map_map, List.count_cons]
    congr 1
    funext count
    by_cases same : name = target
    · simp [same]
      omega
    · simp [same, Ne.symm same]

/-- In the sets of targets together, a name occurs once for each key that has it. -/
theorem count_targets (graph : Adjacency) (name : String) :
    (graph.values.flatMap (·.toList)).count name = graph.toList.countP (·.2.contains name) := by
  rw [NameMap.values_eq_map_toList, List.flatMap_map]
  induction graph.toList with
  | nil => rfl
  | cons entry rest ih =>
    rw [List.flatMap_cons, List.count_append, ih, (NameSet.toList_nodup entry.2).count, List.countP_cons,
      Nat.add_comm]
    simp only [Std.ExtTreeSet.mem_toList, Std.ExtTreeSet.contains_iff_mem]

theorem getElem?_afferentCounts (graph : Adjacency) (name : String) :
    (afferentCounts graph)[name]? =
      graph[name]?.map fun _ => graph.toList.countP (·.2.contains name) := by
  rw [afferentCounts_eq_foldl, getElem?_foldl_countKnown, count_targets, Std.ExtTreeMap.getElem?_map,
    Option.map_map]
  simp only [Function.comp_def, Nat.zero_add]

theorem getElem?_entities (graph : Adjacency) (config : CouplingConfig) (name : String) :
    (ofGraph graph config).entities[name]? =
      graph[name]?.map fun targets =>
        couple config.stabilityBands name (graph.toList.countP (·.2.contains name))
          (efferentCount graph targets) := by
  simp only [ofGraph, Std.ExtTreeMap.getElem?_map, Std.ExtTreeMap.getD_eq_getD_getElem?,
    getElem?_afferentCounts]
  cases graph[name]? <;> rfl

theorem countP_contains_eq_zero_iff {graph : Adjacency} {name : String} :
    graph.toList.countP (·.2.contains name) = 0 ↔ ∀ source, ¬graph.Edge source name := by
  simp only [List.countP_eq_zero, Prod.forall, Std.ExtTreeMap.mem_toList_iff_getElem?_eq_some,
    Std.ExtTreeSet.contains_iff_mem, Adjacency.edge_iff, not_exists, not_and]

/-- Afferent coupling is zero where no edge arrives. -/
theorem afferent_eq_zero_iff {graph : Adjacency} {config : CouplingConfig} {name : String}
    {coupling : Coupling} (found : (ofGraph graph config).entities[name]? = some coupling) :
    coupling.afferent = 0 ↔ ∀ source, ¬graph.Edge source name := by
  rw [getElem?_entities] at found
  obtain ⟨targets, _, rfl⟩ := Option.map_eq_some_iff.mp found
  exact countP_contains_eq_zero_iff

end CodeSurvey.CouplingReport
