import Mathlib.Data.Finset.Card
import CodeSurvey.Proofs.Graph.Circuit
import CodeSurvey.Proofs.Graph.Component
import CodeSurvey.Proofs.Graph.Footprint
import CodeSurvey.Proofs.Resolution

namespace CodeSurvey

theorem foldl_add_eq_sumOf {α : Type} (measure : α → Nat) (items : List α) (start : Nat) :
    items.foldl (fun count item => count + measure item) start = start + sumOf measure items := by
  induction items generalizing start with
  | nil => rfl
  | cons item rest ih =>
    rw [List.foldl_cons, ih, sumOf]
    omega

/-- All occurrences in a model. -/
def Model.occurrences (model : Model) : List Occurrence :=
  model.toList.flatMap Entity.occurrences

namespace DependencyGraph

section Merge

variable (model : Model) (footprints : List Footprint)

theorem merge_classDependencies : (merge model footprints).classDependencies =
    footprints.foldl (fun deps f => deps.insert f.entity f.dependsOn) (isolated model).classDependencies :=
  (List.foldl_hom classDependencies fun _ _ => rfl).symm

theorem merge_edges : (merge model footprints).edges =
    (∅ : EdgeSet).insertMany (footprints.flatMap fun f => f.edges.toList) := by
  rw [Std.ExtTreeSet.insertMany_list_eq_foldl, List.foldl_flatMap]
  simp only [← Std.ExtTreeSet.insertMany_list_eq_foldl]
  exact (List.foldl_hom edges fun _ _ => rfl).symm

theorem merge_callCounts : (merge model footprints).callCounts =
    (footprints.flatMap (·.callSites)).foldl NameMap.increment ∅ := by
  rw [List.foldl_flatMap]
  exact (List.foldl_hom callCounts fun _ _ => rfl).symm

theorem merge_callers : (merge model footprints).callers =
    (footprints.flatMap fun f => f.callSites.map (·, f.entity)).foldl
      (fun callers entry => NameMap.insertInto callers entry.1 entry.2) ∅ := by
  simp only [List.foldl_flatMap, List.foldl_map]
  exact (List.foldl_hom callers fun _ _ => rfl).symm

theorem merge_usageCounts : (merge model footprints).usageCounts =
    (footprints.flatMap (·.usages)).foldl NameMap.increment (isolated model).usageCounts := by
  rw [List.foldl_flatMap]
  exact (List.foldl_hom usageCounts fun _ _ => rfl).symm

theorem merge_unresolvedCalls : (merge model footprints).diagnostics.unresolvedCalls =
    sumOf (·.unresolvedCalls) footprints := by
  rw [← Nat.zero_add (sumOf _ _), ← foldl_add_eq_sumOf]
  exact (List.foldl_hom (fun graph : DependencyGraph => graph.diagnostics.unresolvedCalls)
    fun _ _ => rfl).symm

theorem merge_droppedReferences : (merge model footprints).diagnostics.droppedReferences =
    sumOf (·.droppedReferences) footprints := by
  rw [← Nat.zero_add (sumOf _ _), ← foldl_add_eq_sumOf]
  exact (List.foldl_hom (fun graph : DependencyGraph => graph.diagnostics.droppedReferences)
    fun _ _ => rfl).symm

/-- Every entity starts with the same value. -/
theorem getElem?_isolated {α : Type} (value : α) (name : String) :
    (model.names.foldl (fun (map : NameMap α) name => map.insert name value) ∅)[name]? =
      if model.contains name then some value else none := by
  by_cases known : model.contains name
  · rw [if_pos known]
    exact NameMap.getElem?_foldl_insert_of_mem (fun name => name) (fun _ => value) ∅
      (by simpa using model.names_nodup) (Model.mem_names.mpr known)
  · rw [if_neg known, NameMap.getElem?_foldl_insert_of_not_mem (fun name => name) (fun _ => value) ∅
      (by simpa [Model.mem_names] using known)]
    simp

end Merge

variable {model : Model}

section Build

theorem mem_edges {edge : Edge} :
    edge ∈ (build model).edges ↔ ∃ entity ∈ model.toList, entity.qualifiedName = edge.source ∧
      ∃ o ∈ entity.occurrences, o.edgeKind = edge.kind ∧
        o.target (Resolver.ofModel model) = some edge.target := by
  rw [build, merge_edges, Std.ExtTreeSet.mem_insertMany_list, List.contains_iff_mem, footprints]
  simp only [Std.ExtTreeSet.not_mem_empty, false_or, List.mem_flatMap, List.mem_map,
    exists_exists_and_eq_and, Std.ExtTreeSet.mem_toList]
  simp only [(Footprint.ofEntity_records _ _).edges, eq_comm]

theorem map_entity_footprints (keyed : model.Keyed) :
    (footprints model).map (·.entity) = model.names := by
  rw [footprints, List.map_map, ← keyed.map_qualifiedName]
  exact List.map_congr_left fun entity _ => (Footprint.ofEntity_records _ entity).entity

theorem getElem?_classDependencies_of_mem (keyed : model.Keyed) {entity : Entity}
    (member : entity ∈ model.toList) :
    (build model).classDependencies[entity.qualifiedName]? =
      some (Footprint.ofEntity (Resolver.ofModel model) entity).dependsOn := by
  rw [build, merge_classDependencies, ← (Footprint.ofEntity_records (Resolver.ofModel model) entity).entity]
  refine NameMap.getElem?_foldl_insert_of_mem Footprint.entity Footprint.dependsOn _ ?_
    (List.mem_map.mpr ⟨entity, member, rfl⟩)
  rw [map_entity_footprints keyed]
  exact model.names_nodup

theorem getElem?_classDependencies_of_not_contains (keyed : model.Keyed) {name : String}
    (unknown : ¬model.contains name) : (build model).classDependencies[name]? = none := by
  rw [build, merge_classDependencies, NameMap.getElem?_foldl_insert_of_not_mem Footprint.entity
    Footprint.dependsOn, isolated, getElem?_isolated, if_neg unknown]
  rwa [map_entity_footprints keyed, Model.mem_names]

theorem mem_classDependencies (keyed : model.Keyed) {name : String} :
    name ∈ (build model).classDependencies ↔ model.contains name := by
  rw [Std.ExtTreeMap.mem_iff_isSome_getElem?]
  by_cases known : model.contains name
  · obtain ⟨entity, found⟩ := Model.contains_iff_get?.mp known
    cases keyed name entity found
    rw [getElem?_classDependencies_of_mem keyed (Model.mem_toList.mpr ⟨_, found⟩)]
    exact iff_of_true rfl known
  · rw [getElem?_classDependencies_of_not_contains keyed known]
    exact iff_of_false (by simp) known

/-- One entity depends on another when one of its occurrences leads there. -/
theorem edge_classDependencies (keyed : model.Keyed) {source target : String} :
    (build model).classDependencies.Edge source target ↔
      ∃ entity ∈ model.toList, entity.qualifiedName = source ∧
        ∃ o ∈ entity.occurrences, o.target (Resolver.ofModel model) = some target := by
  rw [Adjacency.edge_iff]
  constructor
  · rintro ⟨set, atSource, member⟩
    have known : model.contains source := (mem_classDependencies keyed).mp
      (Std.ExtTreeMap.mem_iff_isSome_getElem?.mpr (by rw [atSource]; rfl))
    obtain ⟨entity, found⟩ := Model.contains_iff_get?.mp known
    have inside := Model.mem_toList.mpr ⟨_, found⟩
    cases keyed source entity found
    rw [getElem?_classDependencies_of_mem keyed inside] at atSource
    cases atSource
    exact ⟨entity, inside, rfl, ((Footprint.ofEntity_records _ entity).dependsOn target).mp member⟩
  · rintro ⟨entity, inside, rfl, leads⟩
    exact ⟨_, getElem?_classDependencies_of_mem keyed inside,
      ((Footprint.ofEntity_records _ entity).dependsOn target).mpr leads⟩

theorem edge_iff_mem_edges (keyed : model.Keyed) {source target : String} :
    (build model).classDependencies.Edge source target ↔
      ∃ kind, ⟨source, target, kind⟩ ∈ (build model).edges := by
  rw [edge_classDependencies keyed]
  simp only [mem_edges]
  constructor
  · rintro ⟨entity, inside, same, o, member, leads⟩
    exact ⟨o.edgeKind, entity, inside, same, o, member, rfl, leads⟩
  · rintro ⟨_, entity, inside, same, o, member, _, leads⟩
    exact ⟨entity, inside, same, o, member, leads⟩

/-- An occurrence never leads out of the model. -/
theorem contains_of_target (keyed : model.Keyed) {o : Occurrence} {target : String}
    (leads : o.target (Resolver.ofModel model) = some target) : model.contains target := by
  obtain ⟨written, hint, resolved⟩ := Occurrence.exists_resolve leads
  exact Resolver.contains_of_resolve keyed resolved

theorem contains_of_edge (keyed : model.Keyed) {source target : String}
    (edge : (build model).classDependencies.Edge source target) : model.contains target := by
  obtain ⟨_, _, _, _, _, leads⟩ := (edge_classDependencies keyed).mp edge
  exact contains_of_target keyed leads

theorem keys_classDependencies (keyed : model.Keyed) :
    (build model).classDependencies.keys = model.names := by
  refine (NameMap.keys_ascending _).eq_of_mem_iff model.names_ascending fun name => ?_
  rw [Std.ExtTreeMap.mem_keys, mem_classDependencies keyed, Model.mem_names]

end Build

section Counts

variable (entities : List Entity) (resolver : Resolver)

theorem count_callSites (call : String) :
    ((entities.map (Footprint.ofEntity resolver)).flatMap (·.callSites)).count call =
      (entities.flatMap Entity.occurrences).countP (Occurrence.Calls resolver call) +
        (entities.flatMap Entity.occurrences).countP (Occurrence.Creates resolver call) := by
  induction entities with
  | nil => rfl
  | cons entity rest ih =>
    simp only [List.map_cons, List.flatMap_cons, List.count_append, List.countP_append, ih,
      (Footprint.ofEntity_records resolver entity).callSites]
    omega

theorem count_usages (target : String) :
    ((entities.map (Footprint.ofEntity resolver)).flatMap (·.usages)).count target =
      ((entities.filter (·.qualifiedName ≠ target)).flatMap Entity.occurrences).countP
        (Occurrence.Uses resolver target) := by
  induction entities with
  | nil => rfl
  | cons entity rest ih =>
    rw [List.map_cons, List.flatMap_cons, List.count_append, ih,
      (Footprint.ofEntity_records resolver entity).usages]
    by_cases own : target = entity.qualifiedName
    · simp [own]
    · simp [own, Ne.symm own]

/-- What each footprint counts among the occurrences of its entity, all of them count together. -/
theorem sumOf_footprints {measure : Footprint → Nat} {p : Occurrence → Bool}
    (each : ∀ entity, measure (Footprint.ofEntity resolver entity) = entity.occurrences.countP p) :
    sumOf measure (entities.map (Footprint.ofEntity resolver)) =
      (entities.flatMap Entity.occurrences).countP p := by
  induction entities with
  | nil => rfl
  | cons entity rest ih => rw [List.map_cons, sumOf, ih, each, List.flatMap_cons, List.countP_append]

end Counts

section Parts

theorem getElem?_callCounts (model : Model) (call : String) :
    (build model).callCounts[call]? =
      let count := model.occurrences.countP (Occurrence.Calls (Resolver.ofModel model) call) +
        model.occurrences.countP (Occurrence.Creates (Resolver.ofModel model) call)
      if count = 0 then none else some count := by
  rw [build, merge_callCounts, NameMap.getElem?_foldl_increment_empty, footprints, count_callSites]
  rfl

theorem mem_callers {call : String} :
    call ∈ (build model).callers ↔ call ∈ (build model).callCounts := by
  rw [build, merge_callers, NameMap.mem_foldl_insertInto, merge_callCounts, NameMap.mem_foldl_increment]
  refine or_congr ?_ (by simp)
  simp only [List.mem_flatMap, List.mem_map]
  constructor
  · rintro ⟨_, ⟨f, member, site, called, rfl⟩, rfl⟩
    exact ⟨f, member, called⟩
  · rintro ⟨f, member, called⟩
    exact ⟨_, ⟨f, member, call, called, rfl⟩, rfl⟩

theorem holds_callers {call caller : String} :
    NameMap.Holds (build model).callers call caller ↔
      ∃ entity ∈ model.toList, entity.qualifiedName = caller ∧
        ∃ o ∈ entity.occurrences, o.Calls (Resolver.ofModel model) call ∨
          o.Creates (Resolver.ofModel model) call := by
  have none : ¬NameMap.Holds ∅ call caller := by simp [NameMap.Holds]
  rw [build, merge_callers, NameMap.holds_foldl_insertInto, or_iff_left none, footprints]
  simp only [List.mem_flatMap, List.mem_map, exists_exists_and_eq_and, Prod.mk.injEq]
  constructor
  · rintro ⟨entity, inside, site, called, rfl, rfl⟩
    have records := Footprint.ofEntity_records (Resolver.ofModel model) entity
    exact ⟨entity, inside, records.entity.symm, records.mem_callSites.mp called⟩
  · rintro ⟨entity, inside, rfl, called⟩
    have records := Footprint.ofEntity_records (Resolver.ofModel model) entity
    exact ⟨entity, inside, call, records.mem_callSites.mpr called, rfl, records.entity⟩

theorem getElem?_usageCounts {name : String} (known : model.contains name) :
    (build model).usageCounts[name]? =
      some (((model.toList.filter (·.qualifiedName ≠ name)).flatMap Entity.occurrences).countP
        (Occurrence.Uses (Resolver.ofModel model) name)) := by
  rw [← count_usages, build, merge_usageCounts, NameMap.getElem?_foldl_increment, isolated,
    getElem?_isolated, if_pos known, footprints, Option.getD_some, Nat.zero_add]
  split
  · rfl
  · next missing => rw [List.count_eq_zero_of_not_mem missing]

theorem mem_usageCounts (keyed : model.Keyed) {name : String} :
    name ∈ (build model).usageCounts ↔ model.contains name := by
  have start : name ∈ (isolated model).usageCounts ↔ model.contains name := by
    rw [Std.ExtTreeMap.mem_iff_isSome_getElem?, isolated, getElem?_isolated]
    by_cases known : model.contains name <;> simp [known]
  rw [build, merge_usageCounts, NameMap.mem_foldl_increment, start, or_iff_right_of_imp]
  intro used
  rw [← List.count_pos_iff, footprints, count_usages, List.countP_pos_iff] at used
  obtain ⟨o, _, uses⟩ := used
  exact contains_of_target keyed (of_decide_eq_true uses).2

theorem keys_usageCounts (keyed : model.Keyed) : (build model).usageCounts.keys = model.names := by
  refine (NameMap.keys_ascending _).eq_of_mem_iff model.names_ascending fun name => ?_
  rw [Std.ExtTreeMap.mem_keys, mem_usageCounts keyed, Model.mem_names]

/-- The pairs that depend on each other are those of the edges, each counted once. -/
theorem edgeCount_eq_card (keyed : model.Keyed) :
    (build model).edgeCount =
      ((build model).edges.toList.map fun edge => (edge.source, edge.target)).toFinset.card := by
  rw [edgeCount, ← NameMap.length_pairs, ← List.toFinset_card_of_nodup (NameMap.pairs_nodup _)]
  congr 1
  ext ⟨source, target⟩
  rw [List.mem_toFinset, List.mem_toFinset, NameMap.mem_pairs, List.mem_map, NameMap.Holds,
    ← Adjacency.edge_iff, edge_iff_mem_edges keyed]
  constructor
  · rintro ⟨kind, member⟩
    exact ⟨_, Std.ExtTreeSet.mem_toList.mpr member, rfl⟩
  · rintro ⟨edge, member, same⟩
    cases same
    exact ⟨edge.kind, Std.ExtTreeSet.mem_toList.mp member⟩

end Parts

/-- The graph stays inside the model, and its views of who depends on whom agree. -/
structure Fits (model : Model) (graph : DependencyGraph) : Prop where
  dependencyKeys : graph.classDependencies.keys = model.names
  usageKeys : graph.usageCounts.keys = model.names
  targets : ∀ source target, graph.classDependencies.Edge source target → model.contains target
  ends : ∀ edge ∈ graph.edges, model.contains edge.source ∧ model.contains edge.target
  agree : ∀ source target, graph.classDependencies.Edge source target ↔
    ∃ kind, ⟨source, target, kind⟩ ∈ graph.edges
  ascending : graph.edges.toList.Pairwise Edge.Before
  distinct : graph.edges.toList.Nodup
  edgeCount : graph.edgeCount =
    (graph.edges.toList.map fun edge => (edge.source, edge.target)).toFinset.card

theorem build_fits_model (entities : List Entity) :
    Fits (Model.ofList entities) (build (Model.ofList entities)) := by
  have keyed := Model.ofList_keyed entities
  refine ⟨keys_classDependencies keyed, keys_usageCounts keyed, fun _ _ => contains_of_edge keyed,
    fun edge member => ?_, fun _ _ => edge_iff_mem_edges keyed, EdgeSet.toList_ascending _,
    EdgeSet.toList_nodup _, edgeCount_eq_card keyed⟩
  obtain ⟨entity, inside, same, _, _, _, leads⟩ := mem_edges.mp member
  exact ⟨same ▸ keyed.contains_of_mem inside, contains_of_target keyed leads⟩

theorem build_fits_homonyms :
    (build (.ofList Resolver.homonyms)).classDependencies.Edge "p.A" "q.B" ∧
      (Model.ofList Resolver.homonyms).contains "q.B" ∧
      ∃ kind, ⟨"p.A", "q.B", kind⟩ ∈ (build (.ofList Resolver.homonyms)).edges := by
  have fits := build_fits_model Resolver.homonyms
  have edge : (build (.ofList Resolver.homonyms)).classDependencies.Edge "p.A" "q.B" := by decide +kernel
  exact ⟨edge, fits.targets _ _ edge, (fits.agree _ _).mp edge⟩

/-- Every occurrence in the model is accounted for, and only once: the edges are where the occurrences
lead, and each counter counts occurrences of its kind. -/
structure Accounts (model : Model) (graph : DependencyGraph) : Prop where
  edges : ∀ edge, edge ∈ graph.edges ↔
    ∃ entity ∈ model.toList, entity.qualifiedName = edge.source ∧
      ∃ o ∈ entity.occurrences, o.edgeKind = edge.kind ∧
        o.target (Resolver.ofModel model) = some edge.target
  callCounts : ∀ call, graph.callCounts[call]? =
    let count := model.occurrences.countP (Occurrence.Calls (Resolver.ofModel model) call) +
      model.occurrences.countP (Occurrence.Creates (Resolver.ofModel model) call)
    if count = 0 then none else some count
  callerKeys : ∀ call, call ∈ graph.callers ↔ call ∈ graph.callCounts
  callers : ∀ call caller, NameMap.Holds graph.callers call caller ↔
    ∃ entity ∈ model.toList, entity.qualifiedName = caller ∧
      ∃ o ∈ entity.occurrences, o.Calls (Resolver.ofModel model) call ∨
        o.Creates (Resolver.ofModel model) call
  usageCounts : ∀ name, model.contains name → graph.usageCounts[name]? =
    some (((model.toList.filter (·.qualifiedName ≠ name)).flatMap Entity.occurrences).countP
      (Occurrence.Uses (Resolver.ofModel model) name))
  unresolvedCalls : graph.diagnostics.unresolvedCalls =
    model.occurrences.countP (Occurrence.UnresolvedCall (Resolver.ofModel model))
  droppedReferences : graph.diagnostics.droppedReferences =
    model.occurrences.countP (Occurrence.Dropped (Resolver.ofModel model))

theorem build_accounts_for_occurrences (model : Model) : Accounts model (build model) where
  edges := fun _ => mem_edges
  callCounts := getElem?_callCounts model
  callerKeys := fun _ => mem_callers
  callers := fun _ _ => holds_callers
  usageCounts := fun _ => getElem?_usageCounts
  unresolvedCalls := (merge_unresolvedCalls _ _).trans
    (sumOf_footprints _ _ fun entity => (Footprint.ofEntity_records _ entity).unresolvedCalls)
  droppedReferences := (merge_droppedReferences _ _).trans
    (sumOf_footprints _ _ fun entity => (Footprint.ofEntity_records _ entity).droppedReferences)

/-- Of the six class names in the types of members three are unknown. Of the calls one leads to the caller itself,
which is no usage, and one leads nowhere. -/
def ledger : List Entity :=
  [.declare .classType "p" "Money" "",
    { Entity.declare .classType "p" "Ledger" "" with
      members := [.field "rates" "Map<Money, Rate>",
        { Member.method "add" "Money" with
          parameters := [⟨"sums", "List<Money>"⟩]
          references := [.call (some "Money") "plus", .instantiation "Money", .call (some "Ledger") "add",
            .call none "log"] }] }]

theorem build_accounts_for_ledger :
    let model := Model.ofList ledger
    (model.contains "p.Money" ∧ model.contains "p.Ledger") ∧
      ⟨"p.Ledger", "p.Money", .referencesType⟩ ∈ (build model).edges ∧
      (build model).diagnostics.droppedReferences = 3 ∧ (build model).diagnostics.unresolvedCalls = 1 ∧
      (build model).usageCounts["p.Money"]? = some 2 ∧ (build model).usageCounts["p.Ledger"]? = some 0 ∧
      (build model).callCounts["p.Money.plus"]? = some 1 ∧
      (build model).callCounts["p.Money.<init>"]? = some 1 ∧
      (build model).callCounts["p.Ledger.add"]? = some 1 := by
  intro model
  have known : model.contains "p.Money" ∧ model.contains "p.Ledger" := by decide +kernel
  have accounts := build_accounts_for_occurrences model
  refine ⟨known, ?_⟩
  rw [accounts.edges, accounts.droppedReferences, accounts.unresolvedCalls, accounts.usageCounts _ known.1,
    accounts.usageCounts _ known.2, accounts.callCounts, accounts.callCounts, accounts.callCounts]
  decide +kernel

end DependencyGraph

end CodeSurvey
