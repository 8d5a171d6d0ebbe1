import CodeSurvey.Proofs.Graph.Merge

namespace CodeSurvey

/-- An entity of the model that is declared in a package, whatever its name looks like. -/
def Model.DeclaredIn (model : Model) (name package : String) : Prop :=
  ∃ entity, model.get? name = some entity ∧ entity.package = package

namespace DependencyGraph

variable {model : Model}

theorem packageOf_eq_iff {name package : String} (known : model.contains name) :
    packageOf model name = package ↔ model.DeclaredIn name package := by
  obtain ⟨entity, found⟩ := Model.contains_iff_get?.mp known
  have read : packageOf model name = entity.package := by rw [packageOf, found]
  rw [read]
  constructor
  · intro same
    exact ⟨entity, found, same⟩
  · rintro ⟨other, otherFound, same⟩
    cases found.symm.trans otherFound
    exact same

theorem mem_packagePairs {f : Footprint} {package other : String} :
    (package, other) ∈ packagePairs model f ↔ package ≠ other ∧ model.DeclaredIn f.entity package ∧
      ∃ target ∈ f.dependsOn, packageOf model target = other := by
  unfold packagePairs Model.DeclaredIn
  cases model.get? f.entity with
  | none => simp
  | some entity =>
    simp only [List.mem_map, List.mem_filter, decide_eq_true_eq, Std.ExtTreeSet.mem_toList, Prod.mk.injEq,
      Option.some.injEq, exists_eq_left']
    constructor
    · rintro ⟨_, ⟨leads, apart⟩, rfl, rfl⟩
      exact ⟨apart, rfl, leads⟩
    · rintro ⟨apart, rfl, leads⟩
      exact ⟨other, ⟨leads, apart⟩, rfl, rfl⟩

theorem merge_packageDependencies (model : Model) (footprints : List Footprint) :
    (merge model footprints).packageDependencies =
      (footprints.flatMap (packagePairs model)).foldl
        (fun packages entry => NameMap.insertInto packages entry.1 entry.2) ∅ := by
  rw [List.foldl_flatMap]
  simp only [← addPackages_eq_foldl]
  exact (List.foldl_hom packageDependencies fun _ _ => rfl).symm

theorem holds_packageDependencies {package other : String} :
    NameMap.Holds (build model).packageDependencies package other ↔
      ∃ f ∈ footprints model, (package, other) ∈ packagePairs model f := by
  have none : ¬NameMap.Holds ∅ package other := by simp [NameMap.Holds]
  rw [build, merge_packageDependencies, NameMap.holds_foldl_insertInto, or_iff_left none, List.mem_flatMap]

/-- A key is only ever made together with an element of its set. -/
theorem exists_holds_of_mem_packageDependencies {package : String}
    (key : package ∈ (build model).packageDependencies) :
    ∃ other, NameMap.Holds (build model).packageDependencies package other := by
  have entered := key
  rw [build, merge_packageDependencies, NameMap.mem_foldl_insertInto] at entered
  rcases entered with ⟨⟨_, other⟩, member, rfl⟩ | before
  · obtain ⟨f, inside, pair⟩ := List.mem_flatMap.mp member
    exact ⟨other, holds_packageDependencies.mpr ⟨f, inside, pair⟩⟩
  · exact absurd before Std.ExtTreeMap.not_mem_empty

theorem edge_iff_mem_dependsOn (keyed : model.Keyed) {source target : String} :
    (build model).classDependencies.Edge source target ↔
      ∃ f ∈ footprints model, f.entity = source ∧ target ∈ f.dependsOn := by
  rw [edge_classDependencies keyed, footprints]
  simp only [List.mem_map, exists_exists_and_eq_and, (Footprint.ofEntity_records _ _).entity,
    (Footprint.ofEntity_records _ _).dependsOn]

/-- The packages of a graph are its entities put together by package, without the loops this makes. -/
structure JoinsPackages (model : Model) (graph : DependencyGraph) : Prop where
  quotient : ∀ package other, NameMap.Holds graph.packageDependencies package other ↔
    package ≠ other ∧ ∃ source target, graph.classDependencies.Edge source target ∧
      model.DeclaredIn source package ∧ model.DeclaredIn target other
  nonempty : ∀ package ∈ graph.packageDependencies,
    ∃ other, NameMap.Holds graph.packageDependencies package other

theorem build_joins_packages (entities : List Entity) :
    JoinsPackages (Model.ofList entities) (build (Model.ofList entities)) where
  quotient package other := by
    have keyed := Model.ofList_keyed entities
    rw [holds_packageDependencies]
    constructor
    · rintro ⟨f, inside, pair⟩
      obtain ⟨apart, declared, target, leads, package⟩ := mem_packagePairs.mp pair
      have edge := (edge_iff_mem_dependsOn keyed).mpr ⟨f, inside, rfl, leads⟩
      have known := contains_of_edge keyed edge
      exact ⟨apart, f.entity, target, edge, declared, (packageOf_eq_iff known).mp package⟩
    · rintro ⟨apart, source, target, edge, declared, package⟩
      have known := contains_of_edge keyed edge
      obtain ⟨f, inside, rfl, leads⟩ := (edge_iff_mem_dependsOn keyed).mp edge
      exact ⟨f, inside, mem_packagePairs.mpr
        ⟨apart, declared, target, leads, (packageOf_eq_iff known).mpr package⟩⟩
  nonempty package key := exists_holds_of_mem_packageDependencies key

/-- A nested type, a type next to the enclosing one that creates it, and one of another package. -/
def nestedUses : List Entity :=
  [.declare .classType "p" "A" "",
    { Entity.declare .classType "p" "B" "" with qualifiedName := "p.A.B" },
    { Entity.declare .classType "p" "C" "" with references := [.instantiation "p.A.B"] },
    { Entity.declare .classType "q" "D" "" with references := [.instantiation "p.A.B"] }]

/-- The name of the nested type shows `p.A`, which is no package. -/
theorem build_joins_packages_nestedUses :
    (build (.ofList nestedUses)).classDependencies.Edge "q.D" "p.A.B" ∧
      NameMap.Holds (build (.ofList nestedUses)).packageDependencies "q" "p" ∧
      ¬NameMap.Holds (build (.ofList nestedUses)).packageDependencies "q" "p.A" ∧
      "p" ∉ (build (.ofList nestedUses)).packageDependencies := by
  have joins := build_joins_packages nestedUses
  have edge : (build (.ofList nestedUses)).classDependencies.Edge "q.D" "p.A.B" := by decide +kernel
  have source : (Model.ofList nestedUses).DeclaredIn "q.D" "q" := ⟨_, rfl, by decide +kernel⟩
  have target : (Model.ofList nestedUses).DeclaredIn "p.A.B" "p" := ⟨_, rfl, by decide +kernel⟩
  refine ⟨edge, ?_, ?_, by decide +kernel⟩
  · exact (joins.quotient "q" "p").mpr ⟨by decide, "q.D", "p.A.B", edge, source, target⟩
  · intro held
    obtain ⟨_, _, name, _, _, entity, found, package⟩ := (joins.quotient "q" "p.A").mp held
    have inside := Model.mem_toList.mpr ⟨name, found⟩
    have declared : ∀ entity ∈ (Model.ofList nestedUses).toList, entity.package ≠ "p.A" := by decide +kernel
    exact declared entity inside package

end DependencyGraph

end CodeSurvey
