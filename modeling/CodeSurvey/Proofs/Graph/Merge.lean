import CodeSurvey.Proofs.Graph.Dependency

namespace CodeSurvey

theorem foldl_foldl_comm {α β : Type} (step : β → α → β) [RightCommutative step]
    (items others : List α) (start : β) :
    others.foldl step (items.foldl step start) = items.foldl step (others.foldl step start) := by
  rw [← List.foldl_append, ← List.foldl_append]
  exact List.perm_append_comm.foldl_eq start

theorem EdgeSet.insertMany_right_comm (set : EdgeSet) (edges others : List Edge) :
    (set.insertMany edges).insertMany others = (set.insertMany others).insertMany edges := by
  refine Std.ExtTreeSet.ext_mem fun edge => ?_
  simp only [Std.ExtTreeSet.mem_insertMany_list]
  exact or_right_comm

namespace DependencyGraph

variable {f other : Footprint}

theorem recordNonempty_comm (apart : f.entity ≠ other.entity) (sets : NameMap NameSet)
    (found otherFound : NameSet) :
    recordNonempty (recordNonempty sets f.entity found) other.entity otherFound =
      recordNonempty (recordNonempty sets other.entity otherFound) f.entity found := by
  unfold recordNonempty
  cases found.isEmpty with
  | true => rfl
  | false =>
    cases otherFound.isEmpty with
    | true => rfl
    | false => exact NameMap.insert_comm sets apart found otherFound

/-- The package of a footprint's entity with each other package that the entity depends on. -/
def packagePairs (model : Model) (f : Footprint) : List (String × String) :=
  match model.get? f.entity with
  | some entity =>
    ((f.dependsOn.toList.map (packageOf model)).filter (entity.package ≠ ·)).map (entity.package, ·)
  | none => []

theorem addPackages_eq_foldl (model : Model) (packages : NameMap NameSet) (f : Footprint) :
    addPackages model packages f =
      (packagePairs model f).foldl (fun packages entry => NameMap.insertInto packages entry.1 entry.2)
        packages := by
  unfold addPackages packagePairs
  cases model.get? f.entity with
  | none => rfl
  | some entity =>
    simp only [List.foldl_map, List.foldl_filter, decide_eq_true_eq, ne_eq, ite_not]

theorem addPackages_comm (model : Model) (packages : NameMap NameSet) (f other : Footprint) :
    addPackages model (addPackages model packages f) other =
      addPackages model (addPackages model packages other) f := by
  simp only [addPackages_eq_foldl]
  exact foldl_foldl_comm _ (packagePairs model f) (packagePairs model other) packages

theorem addCalls_comm (graph : DependencyGraph) (f other : Footprint) :
    (graph.addCalls f).addCalls other = (graph.addCalls other).addCalls f := by
  have callCounts := foldl_foldl_comm NameMap.increment f.callSites other.callSites graph.callCounts
  have usageCounts := foldl_foldl_comm NameMap.increment f.usages other.usages graph.usageCounts
  have callers := foldl_foldl_comm
    (fun (sets : NameMap NameSet) (entry : String × String) => NameMap.insertInto sets entry.1 entry.2)
    (f.callSites.map (·, f.entity)) (other.callSites.map (·, other.entity)) graph.callers
  simp only [List.foldl_map] at callers
  simp only [addCalls, callCounts, callers, usageCounts]

/-- Footprints of two entities are absorbed in either order. -/
theorem absorb_comm (model : Model) (graph : DependencyGraph) (apart : f.entity ≠ other.entity) :
    absorb model (absorb model graph f) other = absorb model (absorb model graph other) f := by
  have calls := addCalls_comm graph f other
  have callCounts := congrArg callCounts calls
  have callers := congrArg callers calls
  have usageCounts := congrArg usageCounts calls
  simp only [absorb, mk.injEq, GraphDiagnostics.mk.injEq]
  exact ⟨NameMap.insert_comm _ apart _ _, recordNonempty_comm apart _ _ _,
    recordNonempty_comm apart _ _ _, addPackages_comm model _ f other,
    EdgeSet.insertMany_right_comm _ _ _, callCounts, callers, usageCounts,
    Nat.add_right_comm _ _ _, Nat.add_right_comm _ _ _, trivial⟩

/-- The merged graph is the same in all its parts whatever the order of the footprints. -/
theorem merge_eq_of_perm (model : Model) {footprints others : List Footprint}
    (distinct : (footprints.map (·.entity)).Nodup) (perm : footprints.Perm others) :
    merge model footprints = merge model others := by
  refine perm.foldl_eq' (fun f member other otherMember graph => ?_) (isolated model)
  by_cases same : f.entity = other.entity
  · rw [List.inj_on_of_nodup_map distinct member otherMember same]
  · exact absorb_comm model graph same

/-- Two entities of different packages call the same member. -/
def callersOfOne : List Entity :=
  [.declare .classType "q" "C" "",
    { Entity.declare .classType "p" "A" "" with
      references := [.call (some "C") "run", .call none "stop", .call (some "q.C") "run"] },
    { Entity.declare .classType "q" "B" "" with
      implemented := ["C"]
      references := [.call (some "C") "run", .typeUse "D"] }]

theorem merge_eq_of_perm_callersOfOne :
    ((footprints (.ofList callersOfOne)).map (·.entity)).Nodup ∧
      build (.ofList callersOfOne) = merge (.ofList callersOfOne) (footprints (.ofList callersOfOne)).reverse ∧
      (build (.ofList callersOfOne)).callCounts["q.C.run"]? = some 3 := by
  have distinct : ((footprints (.ofList callersOfOne)).map (·.entity)).Nodup := by decide +kernel
  refine ⟨distinct, ?_, by decide +kernel⟩
  exact merge_eq_of_perm (.ofList callersOfOne) distinct (List.reverse_perm _).symm

end DependencyGraph

end CodeSurvey
