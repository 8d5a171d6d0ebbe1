import Mathlib.Data.List.ProdSigma
import CodeSurvey.Proofs.Coupling
import CodeSurvey.Proofs.Graph.Dependency

namespace CodeSurvey

theorem sumOf_map {α β : Type} (f : α → β) (count : β → Nat) (items : List α) :
    sumOf count (items.map f) = sumOf (fun item => count (f item)) items := by
  induction items with
  | nil => rfl
  | cons item rest ih => rw [List.map_cons, sumOf, sumOf, ih]

theorem sumOf_congr {α : Type} {items : List α} {count other : α → Nat}
    (same : ∀ item ∈ items, count item = other item) : sumOf count items = sumOf other items := by
  induction items with
  | nil => rfl
  | cons item rest ih =>
    have first := same item (List.mem_cons_self ..)
    have later := ih fun item member => same item (List.mem_cons_of_mem _ member)
    rw [sumOf, sumOf, first, later]

theorem sumOf_add {α : Type} (items : List α) (count other : α → Nat) :
    sumOf (fun item => count item + other item) items = sumOf count items + sumOf other items := by
  induction items with
  | nil => rfl
  | cons item rest ih =>
    rw [sumOf, sumOf, sumOf, ih]
    omega

theorem sumOf_toNat {α : Type} (items : List α) (p : α → Bool) :
    sumOf (fun item => (p item).toNat) items = items.countP p := by
  induction items with
  | nil => rfl
  | cons item rest ih =>
    rw [sumOf, ih, List.countP_cons, Nat.add_comm]
    cases p item <;> rfl

section Pairs

variable {α β : Type} (p : α × β → Bool)

/-- The pairs of two lists, counted by their first components. -/
theorem countP_product (items : List α) (others : List β) :
    (items ×ˢ others).countP p = sumOf (fun item => others.countP fun other => p (item, other)) items := by
  induction items with
  | nil => rfl
  | cons item rest ih =>
    rw [List.product_cons, List.countP_append, List.countP_map, ih, sumOf]
    rfl

/-- The same pairs, counted by their second components. -/
theorem countP_product_swapped (items : List α) (others : List β) :
    (items ×ˢ others).countP p = sumOf (fun other => items.countP fun item => p (item, other)) others := by
  induction items with
  | nil =>
    induction others with
    | nil => rfl
    | cons other rest ih => simpa [sumOf] using ih
  | cons item rest ih =>
    have split (other : β) : ((item :: rest).countP fun item => p (item, other)) =
        (rest.countP fun item => p (item, other)) + (p (item, other)).toNat := by
      rw [List.countP_cons]
      cases p (item, other) <;> rfl
    simp only [split]
    rw [List.product_cons, List.countP_append, List.countP_map, ih, sumOf_add, sumOf_toNat, Nat.add_comm]
    rfl

end Pairs

namespace CouplingReport

variable {graph : Adjacency} {name : String}

theorem edge_of_mem_toList {entry : String × NameSet} (member : entry ∈ graph.toList) :
    graph.Edge entry.1 name ↔ name ∈ entry.2 := by
  have atEntry : graph[entry.1]? = some entry.2 := Std.ExtTreeMap.mem_toList_iff_getElem?_eq_some.mp member
  rw [Adjacency.edge_iff, atEntry]
  simp

/-- Who depends on a name, counted over the keys. -/
theorem countP_contains (graph : Adjacency) (name : String) :
    graph.toList.countP (·.2.contains name) = graph.keys.countP (graph.Edge · name) := by
  rw [← Std.ExtTreeMap.map_fst_toList_eq_keys, List.countP_map]
  refine List.countP_congr fun entry member => ?_
  rw [Function.comp_apply, decide_eq_true_iff, edge_of_mem_toList member, Std.ExtTreeSet.contains_iff_mem]

theorem targets_eq {targets : NameSet} (atName : graph[name]? = some targets) :
    graph.targets name = targets.toList := by
  rw [Adjacency.targets, Std.ExtTreeMap.get?_eq_getElem?, atName]

theorem efferentCount_eq {targets : NameSet} (atName : graph[name]? = some targets) :
    efferentCount graph targets = (graph.targets name).countP graph.contains := by
  rw [targets_eq atName, List.countP_eq_length_filter]
  rfl

/-- The targets that are keys are the keys that are targets. -/
theorem countP_targets (graph : Adjacency) (name : String) :
    (graph.targets name).countP graph.contains = graph.keys.countP (graph.Edge name ·) := by
  have keysDistinct : graph.keys.Nodup := (NameMap.keys_ascending graph).imp fun before => before.ne
  have perm : ((graph.targets name).filter graph.contains).Perm
      (graph.keys.filter fun target => graph.Edge name target) := by
    refine (List.perm_ext_iff_of_nodup ((graph.targets_nodup name).filter _) (keysDistinct.filter _)).mpr ?_
    intro target
    rw [List.mem_filter, List.mem_filter, Std.ExtTreeMap.contains_iff_mem, Std.ExtTreeMap.mem_keys,
      decide_eq_true_iff, and_comm]
    rfl
  rw [List.countP_eq_length_filter, List.countP_eq_length_filter, perm.length_eq]

section Totals

variable (graph) (config : CouplingConfig)

theorem keys_entities : (ofGraph graph config).entities.keys = graph.keys :=
  Std.ExtTreeMap.keys_map

/-- The records of the keys, in their order. -/
theorem values_entities : (ofGraph graph config).entities.values =
    graph.keys.map fun name => couple config.stabilityBands name (graph.keys.countP (graph.Edge · name))
      ((graph.targets name).countP graph.contains) := by
  rw [NameMap.values_eq_map_toList, ← Std.ExtTreeMap.map_fst_toList_eq_keys, ofGraph]
  simp only [Std.ExtTreeMap.toList_map, List.map_map]
  refine List.map_congr_left fun entry member => ?_
  have atEntry : graph[entry.1]? = some entry.2 := Std.ExtTreeMap.mem_toList_iff_getElem?_eq_some.mp member
  have arriving : (afferentCounts graph).getD entry.1 0 =
      (graph.toList.map (·.1)).countP (graph.Edge · entry.1) := by
    rw [Std.ExtTreeMap.getD_eq_getD_getElem?, getElem?_afferentCounts, atEntry, Option.map_some,
      Option.getD_some, countP_contains, Std.ExtTreeMap.map_fst_toList_eq_keys]
  rw [Function.comp_apply, Function.comp_apply, arriving, efferentCount_eq atEntry]

theorem totalAfferent_eq : (ofGraph graph config).totalAfferent =
    (graph.keys ×ˢ graph.keys).countP fun pair => graph.Edge pair.1 pair.2 := by
  rw [totalAfferent, values_entities, sumOf_map, countP_product_swapped]
  rfl

theorem totalEfferent_eq : (ofGraph graph config).totalEfferent =
    (graph.keys ×ˢ graph.keys).countP fun pair => graph.Edge pair.1 pair.2 := by
  rw [totalEfferent, values_entities, sumOf_map, countP_product]
  exact sumOf_congr fun name _ => countP_targets graph name

end Totals

/-- Where all targets are keys, the pairs of keys are all there are. -/
theorem totalEfferent_eq_sumOf_size (closed : ∀ source target, graph.Edge source target → target ∈ graph)
    (config : CouplingConfig) : (ofGraph graph config).totalEfferent = sumOf (·.size) graph.values := by
  rw [totalEfferent, values_entities, sumOf_map, NameMap.values_eq_map_toList, sumOf_map,
    ← Std.ExtTreeMap.map_fst_toList_eq_keys, sumOf_map]
  refine sumOf_congr fun entry member => ?_
  have atEntry : graph[entry.1]? = some entry.2 := Std.ExtTreeMap.mem_toList_iff_getElem?_eq_some.mp member
  have known : ∀ target ∈ graph.targets entry.1, graph.contains target := fun target edge =>
    Std.ExtTreeMap.contains_iff_mem.mpr (closed entry.1 target edge)
  rw [← Std.ExtTreeSet.length_toList, ← targets_eq atEntry]
  exact List.countP_eq_length.mpr known

/-- One record for each key, and both totals count the pairs of keys that depend on each other. -/
structure Balanced (graph : Adjacency) (report : CouplingReport) : Prop where
  keys : report.entities.keys = graph.keys
  entity : ∀ name (coupling : Coupling), report.entities[name]? = some coupling → coupling.entity = name
  afferent : ∀ name (coupling : Coupling), report.entities[name]? = some coupling →
    coupling.afferent = graph.keys.countP (graph.Edge · name)
  efferent : ∀ name (coupling : Coupling), report.entities[name]? = some coupling →
    coupling.efferent = (graph.targets name).countP (· ∈ graph)
  totalAfferent : report.totalAfferent =
    (graph.keys ×ˢ graph.keys).countP fun pair => graph.Edge pair.1 pair.2
  totalEfferent : report.totalEfferent =
    (graph.keys ×ˢ graph.keys).countP fun pair => graph.Edge pair.1 pair.2

theorem exists_couple {config : CouplingConfig} {coupling : Coupling}
    (found : (ofGraph graph config).entities[name]? = some coupling) :
    couple config.stabilityBands name (graph.keys.countP (graph.Edge · name))
      ((graph.targets name).countP graph.contains) = coupling := by
  rw [getElem?_entities] at found
  obtain ⟨targets, atName, same⟩ := Option.map_eq_some_iff.mp found
  rw [← same, countP_contains, efferentCount_eq atName]

theorem ofGraph_balanced (graph : Adjacency) (config : CouplingConfig) :
    Balanced graph (ofGraph graph config) where
  keys := keys_entities graph config
  entity := fun _ _ found => exists_couple found ▸ rfl
  afferent := fun _ _ found => exists_couple found ▸ rfl
  efferent := fun _ _ found => by
    rw [← exists_couple found]
    exact List.countP_congr fun target _ => by simp
  totalAfferent := totalAfferent_eq graph config
  totalEfferent := totalEfferent_eq graph config

theorem length_dependentsOf (graph : DependencyGraph) (name : String) :
    (graph.dependentsOf name).length =
      graph.classDependencies.keys.countP (graph.classDependencies.Edge · name) := by
  rw [← countP_contains, List.countP_eq_length_filter, DependencyGraph.dependentsOf, List.length_map]

theorem totalEfferent_build {model : Model} (keyed : model.Keyed) (config : CouplingConfig) :
    (ofGraph (DependencyGraph.build model).classDependencies config).totalEfferent =
      (DependencyGraph.build model).edgeCount := by
  refine totalEfferent_eq_sumOf_size (fun source target edge => ?_) config
  exact (DependencyGraph.mem_classDependencies keyed).mpr (DependencyGraph.contains_of_edge keyed edge)

/-- Targets that are no key are counted on neither side. The graph of a model has none, so there both totals
are the number of its edges. -/
theorem coupling_is_balanced (graph : Adjacency) (config : CouplingConfig) :
    Balanced graph (ofGraph graph config) ∧
      ∀ entities,
        let built := DependencyGraph.build (Model.ofList entities)
        let report := ofGraph built.classDependencies config
        (∀ name (coupling : Coupling), report.entities[name]? = some coupling →
          coupling.afferent = (built.dependentsOf name).length) ∧
        report.totalAfferent = built.edgeCount ∧ report.totalEfferent = built.edgeCount := by
  refine ⟨ofGraph_balanced graph config, ?_⟩
  intro entities built report
  have balanced : Balanced built.classDependencies report := ofGraph_balanced _ config
  have leaving : report.totalEfferent = built.edgeCount :=
    totalEfferent_build (Model.ofList_keyed entities) config
  refine ⟨fun name coupling found => ?_, ?_, leaving⟩
  · rw [balanced.afferent name coupling found, length_dependentsOf]
  · rw [balanced.totalAfferent, ← balanced.totalEfferent, leaving]

/-- A node that depends on itself, on another and on a name that is no key. -/
def dangling : Adjacency :=
  Std.ExtTreeMap.ofList
    [("a", Std.ExtTreeSet.ofList ["a", "b", "x"] compare), ("b", Std.ExtTreeSet.ofList ["y"] compare)] compare

theorem coupling_is_balanced_dangling :
    (∃ coupling, (ofGraph dangling {}).entities["a"]? = some coupling ∧ coupling.afferent = 1 ∧
        coupling.efferent = 2) ∧
      (ofGraph dangling {}).totalAfferent = 2 ∧ (ofGraph dangling {}).totalEfferent = 2 ∧
      (ofGraph (DependencyGraph.build (.ofList Resolver.homonyms)).classDependencies {}).totalAfferent =
        (DependencyGraph.build (.ofList Resolver.homonyms)).edgeCount := by
  obtain ⟨balanced, built⟩ := coupling_is_balanced dangling {}
  have key : "a" ∈ (ofGraph dangling {}).entities := by
    rw [← Std.ExtTreeMap.mem_keys, balanced.keys]
    decide +kernel
  obtain ⟨coupling, found⟩ := Option.isSome_iff_exists.mp (Std.ExtTreeMap.mem_iff_isSome_getElem?.mp key)
  have afferent := balanced.afferent "a" coupling found
  have efferent := balanced.efferent "a" coupling found
  refine ⟨⟨coupling, found, afferent.trans ?_, efferent.trans ?_⟩, ?_, ?_, (built Resolver.homonyms).2.1⟩
  · decide +kernel
  · decide +kernel
  · rw [balanced.totalAfferent]
    decide +kernel
  · rw [balanced.totalEfferent]
    decide +kernel

end CouplingReport

end CodeSurvey
