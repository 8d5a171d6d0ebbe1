import CodeSurvey.Analysis.Basic
import CodeSurvey.Proofs.Model

namespace CodeSurvey

namespace Model

/-- Two arrivals that bring the same first entity of every name. -/
def SameFirsts (entities others : List Entity) : Prop :=
  ∀ name, firstNamed entities name = firstNamed others name

theorem ofList_eq_of_sameFirsts {entities others : List Entity} (same : SameFirsts entities others) :
    ofList entities = ofList others := by
  refine congrArg mk (Std.ExtTreeMap.ext_getElem? fun name => ?_)
  have found := same name
  rwa [← get?_ofList, ← get?_ofList] at found

theorem sameFirsts_of_toList_eq {entities others : List Entity}
    (listing : (ofList entities).toList = (ofList others).toList) : SameFirsts entities others := by
  intro name
  have carried {some other : List Entity} (listing : (ofList some).toList = (ofList other).toList)
      {entity : Entity} (first : firstNamed some name = .some entity) :
      firstNamed other name = .some entity := by
    cases qualifiedName_of_firstNamed first
    exact mem_toList_ofList.mp (listing ▸ mem_toList_ofList.mpr first)
  exact Option.ext fun entity => ⟨carried listing, carried listing.symm⟩

/-- Where no name comes twice, each entity is the first of its name. -/
theorem firstNamed_eq_some_iff {entities : List Entity}
    (distinct : (entities.map (·.qualifiedName)).Nodup) {name : String} {entity : Entity} :
    firstNamed entities name = some entity ↔ entity ∈ entities ∧ entity.qualifiedName = name := by
  constructor
  · intro first
    exact ⟨List.mem_of_find?_eq_some first, qualifiedName_of_firstNamed first⟩
  · rintro ⟨member, rfl⟩
    have present : (firstNamed entities entity.qualifiedName).isSome :=
      List.find?_isSome.mpr ⟨entity, member, by simp⟩
    obtain ⟨first, found⟩ := Option.isSome_iff_exists.mp present
    have named := qualifiedName_of_firstNamed found
    rwa [List.inj_on_of_nodup_map distinct (List.mem_of_find?_eq_some found) member named] at found

theorem sameFirsts_of_perm {entities others : List Entity} (perm : entities.Perm others)
    (distinct : (entities.map (·.qualifiedName)).Nodup) : SameFirsts entities others := by
  have alsoDistinct : (others.map (·.qualifiedName)).Nodup := (perm.map _).nodup_iff.mp distinct
  intro name
  refine Option.ext fun entity => ?_
  rw [firstNamed_eq_some_iff distinct, firstNamed_eq_some_iff alsoDistinct, perm.mem_iff]

end Model

/-- Arrivals give the same listing exactly when they bring the same first entity of every name, as all
orders of entities with different names do; and then every analysis is the same. -/
theorem analysis_ignores_arrival_order (entities others : List Entity) :
    (Model.SameFirsts entities others ↔ (Model.ofList entities).toList = (Model.ofList others).toList) ∧
      (Model.SameFirsts entities others → ∀ config skipped,
        Analysis.ofModel config (Model.ofList entities) skipped =
          Analysis.ofModel config (Model.ofList others) skipped) ∧
      (entities.Perm others → (entities.map (·.qualifiedName)).Nodup →
        Model.SameFirsts entities others) := by
  refine ⟨⟨fun same => ?_, Model.sameFirsts_of_toList_eq⟩, fun same config skipped => ?_,
    Model.sameFirsts_of_perm⟩
  · rw [Model.ofList_eq_of_sameFirsts same]
  · rw [Model.ofList_eq_of_sameFirsts same]

/-- Two classes, the first of which arrives a second time from another file. -/
def earlyArrivals : List Entity :=
  [.declare .classType "p" "A" "A.java", .declare .classType "p" "A" "copies/A.java",
    .declare .classType "p" "B" "B.java"]

/-- The same two classes in the other order; now a copy of the second comes late. -/
def lateArrivals : List Entity :=
  [.declare .classType "p" "B" "B.java", .declare .classType "p" "A" "A.java",
    .declare .classType "p" "B" "copies/B.java"]

theorem analysis_ignores_arrival_order_copies :
    ¬earlyArrivals.Perm lateArrivals ∧ Model.SameFirsts earlyArrivals lateArrivals ∧
      ∀ config skipped, Analysis.ofModel config (Model.ofList earlyArrivals) skipped =
        Analysis.ofModel config (Model.ofList lateArrivals) skipped := by
  obtain ⟨listing, analysis, _⟩ := analysis_ignores_arrival_order earlyArrivals lateArrivals
  have same : Model.SameFirsts earlyArrivals lateArrivals := listing.mpr (by decide +kernel)
  exact ⟨by decide +kernel, same, analysis same⟩

end CodeSurvey
