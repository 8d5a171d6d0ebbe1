import CodeSurvey.Entity.Model
import CodeSurvey.Proofs.NameMap

namespace CodeSurvey.Model

variable {model : Model}

/-- Every entity stands under its own qualified name. -/
def Keyed (model : Model) : Prop :=
  ∀ name entity, model.get? name = some entity → entity.qualifiedName = name

theorem empty_keyed : empty.Keyed := by
  intro name entity found
  simp [get?, empty] at found

theorem get?_insert (model : Model) (entity : Entity) (name : String) :
    (model.insert entity).get? name =
      (model.get? name).or (if name = entity.qualifiedName then some entity else none) :=
  NameMap.getElem?_insertIfNew _ _ _ _

theorem insert_keyed (keyed : model.Keyed) (entity : Entity) : (model.insert entity).Keyed := by
  intro name other found
  rw [get?_insert, Option.or_eq_some_iff] at found
  rcases found with old | ⟨_, new⟩
  · exact keyed name other old
  · obtain ⟨same, kept⟩ := Option.ite_none_right_eq_some.mp new
    cases kept
    exact same.symm

theorem ofList_keyed (entities : List Entity) : (ofList entities).Keyed :=
  List.foldlRecOn entities insert empty_keyed fun _ keyed entity _ => insert_keyed keyed entity

theorem mem_names {name : String} : name ∈ model.names ↔ model.contains name := by
  rw [names, contains, Std.ExtTreeMap.mem_keys, Std.ExtTreeMap.contains_iff_mem]

theorem names_ascending (model : Model) : model.names.Pairwise (· < ·) :=
  NameMap.keys_ascending model.entities

theorem names_nodup (model : Model) : model.names.Nodup :=
  model.names_ascending.imp fun before => before.ne

theorem contains_iff_get? {name : String} : model.contains name ↔ ∃ entity, model.get? name = some entity := by
  rw [contains, get?, Std.ExtTreeMap.contains_eq_isSome_getElem?, Option.isSome_iff_exists]

theorem mem_toList {entity : Entity} : entity ∈ model.toList ↔ ∃ name, model.get? name = some entity := by
  rw [toList, NameMap.values_eq_map_toList, List.mem_map]
  constructor
  · rintro ⟨⟨name, entity⟩, member, rfl⟩
    exact ⟨name, Std.ExtTreeMap.mem_toList_iff_getElem?_eq_some.mp member⟩
  · rintro ⟨name, found⟩
    exact ⟨(name, entity), Std.ExtTreeMap.mem_toList_iff_getElem?_eq_some.mpr found, rfl⟩

section Insert

variable {entity : Entity}

theorem insert_of_contains (known : model.contains entity.qualifiedName) : model.insert entity = model := by
  obtain ⟨old, found⟩ := contains_iff_get?.mp known
  refine congrArg mk (Std.ExtTreeMap.ext_getElem? fun name => ?_)
  refine (get?_insert model entity name).trans ?_
  by_cases same : name = entity.qualifiedName
  · rw [same, found, Option.some_or]
    exact found.symm
  · rw [if_neg same, Option.or_none]
    rfl

theorem contains_insert {name : String} :
    (model.insert entity).contains name ↔ name = entity.qualifiedName ∨ model.contains name := by
  rw [contains_iff_get?, contains_iff_get?, get?_insert]
  by_cases same : name = entity.qualifiedName
  · cases model.get? name <;> simp [same]
  · simp [same]

/-- A new entity comes between two parts of the listing, which stay as they are. -/
theorem exists_toList_insert (fresh : ¬model.contains entity.qualifiedName) :
    ∃ front back, model.toList = front ++ back ∧ (model.insert entity).toList = front ++ entity :: back := by
  rw [contains, Std.ExtTreeMap.contains_iff_mem] at fresh
  obtain ⟨front, back, before, after⟩ := NameMap.exists_toList_insertIfNew model.entities fresh entity
  refine ⟨front.map (·.2), back.map (·.2), ?_, ?_⟩
  · rw [toList, NameMap.values_eq_map_toList, before, List.map_append]
  · rw [toList, insert, NameMap.values_eq_map_toList, after, List.map_append, List.map_cons]

end Insert

namespace Keyed

theorem map_qualifiedName (keyed : model.Keyed) :
    model.toList.map (·.qualifiedName) = model.names := by
  rw [toList, names, NameMap.values_eq_map_toList, ← Std.ExtTreeMap.map_fst_toList_eq_keys, List.map_map]
  refine List.map_congr_left fun entry member => ?_
  exact keyed entry.1 entry.2 (Std.ExtTreeMap.mem_toList_iff_getElem?_eq_some.mp member)

theorem toList_ascending (keyed : model.Keyed) :
    model.toList.Pairwise fun entity other => entity.qualifiedName < other.qualifiedName :=
  List.pairwise_map.mp (keyed.map_qualifiedName ▸ model.names_ascending)

theorem get?_of_mem (keyed : model.Keyed) {entity : Entity} (member : entity ∈ model.toList) :
    model.get? entity.qualifiedName = some entity := by
  obtain ⟨name, found⟩ := mem_toList.mp member
  rw [keyed name entity found, found]

theorem contains_of_mem (keyed : model.Keyed) {entity : Entity} (member : entity ∈ model.toList) :
    model.contains entity.qualifiedName := by
  rw [← mem_names, ← keyed.map_qualifiedName]
  exact List.mem_map.mpr ⟨entity, member, rfl⟩

end Keyed

/-- The first entity of a name among those that arrive. -/
def firstNamed (entities : List Entity) (name : String) : Option Entity :=
  entities.find? fun entity => name = entity.qualifiedName

theorem qualifiedName_of_firstNamed {entities : List Entity} {name : String} {entity : Entity}
    (first : firstNamed entities name = some entity) : entity.qualifiedName = name := by
  simpa [eq_comm] using List.find?_some first

/-- After all have arrived, a name leads to its first entity. -/
theorem get?_ofList (entities : List Entity) (name : String) :
    (ofList entities).get? name = firstNamed entities name := by
  have kept : (ofList entities).entities =
      entities.foldl (fun kept entity => kept.insertIfNew entity.qualifiedName entity) ∅ :=
    (List.foldl_hom Model.entities fun _ _ => rfl).symm
  rw [get?, kept, NameMap.getElem?_foldl_insertIfNew Entity.qualifiedName fun entity => entity,
    Std.ExtTreeMap.getElem?_empty, Option.none_or, Option.map_id', firstNamed]

theorem mem_toList_ofList {entities : List Entity} {entity : Entity} :
    entity ∈ (ofList entities).toList ↔ firstNamed entities entity.qualifiedName = some entity := by
  rw [← get?_ofList]
  exact ⟨(ofList_keyed entities).get?_of_mem, fun found => mem_toList.mpr ⟨_, found⟩⟩

end CodeSurvey.Model
