import CodeSurvey.Proofs.Json.Record

namespace CodeSurvey

open Json Json.Fields

theorem ReferenceKind.readsBack : ReadsBack (toWord? words) fun kind => .str kind.text :=
  readsBack_word fun kind => by cases kind <;> rfl

theorem MemberKind.readsBack : ReadsBack (toWord? words) fun kind => .str kind.text :=
  readsBack_word fun kind => by cases kind <;> rfl

theorem Visibility.readsBack : ReadsBack (toWord? words) fun visibility => .str visibility.text :=
  readsBack_word fun visibility => by cases visibility <;> rfl

theorem EntityKind.readsBack : ReadsBack (toWord? words) fun kind => .str kind.text :=
  readsBack_word fun kind => by cases kind <;> rfl

theorem Reference.readsBack : ReadsBack ofJson? toJson := by
  intro r
  rw [ofJson?, toJson, toFields?_bind]
  rw [required_named ReferenceKind.readsBack r.kind (by simp), optional_named r.target (by simp),
    optional_named r.member (by simp), optional_named r.resolved (by simp)]
  rfl

theorem Parameter.readsBack : ReadsBack ofJson? toJson := by
  intro p
  rw [ofJson?, toJson, toFields?_bind]
  rw [required_named readsBack_str p.name (by simp), required_named readsBack_str p.typeName (by simp)]
  rfl

theorem Member.readsBack : ReadsBack ofJson? toJson := by
  intro m
  rw [ofJson?, toJson, toFields?_bind, toStrings?]
  rw [required_named MemberKind.readsBack m.kind (by simp), required_named readsBack_str m.name (by simp),
    optional_named m.typeName (by simp), withDefault_listed Parameter.readsBack m.parameters (by simp),
    required_named Visibility.readsBack m.visibility (by simp),
    required_named readsBack_bool m.isStatic (by simp), required_named readsBack_bool m.isAbstract (by simp),
    withDefault_listed readsBack_str m.annotations (by simp), optional_named m.body (by simp),
    required_named readsBack_nat m.complexity (by simp), required_named readsBack_nat m.lineCount (by simp),
    withDefault_listed Reference.readsBack m.references (by simp),
    withDefault_listed readsBack_str m.accessedFields (by simp)]
  rfl

theorem Entity.readsBack : ReadsBack ofJson? toJson := by
  intro e
  rw [ofJson?, toJson, toFields?_bind]
  rw [required_named readsBack_str e.qualifiedName (by simp), required_named readsBack_str e.name (by simp),
    required_named readsBack_str e.package (by simp), required_named readsBack_str e.filePath (by simp),
    required_named EntityKind.readsBack e.kind (by simp),
    required_named readsBack_bool e.isAbstract (by simp), required_named readsBack_bool e.isStatic (by simp),
    withDefault_given readsBack_strings [] e.annotations (by simp),
    withDefault_given readsBack_strings [] e.extended (by simp),
    withDefault_given readsBack_strings [] e.implemented (by simp),
    withDefault_given Member.readsBack.list [] e.members (by simp),
    withDefault_given Reference.readsBack.list [] e.references (by simp),
    required_named readsBack_nat e.startLine (by simp), required_named readsBack_nat e.endLine (by simp)]
  rfl

theorem Model.readsBack : ReadsBack ofJson? toJson := by
  intro model
  rw [ofJson?, toJson, toFields?_bind]
  rw [required_named Entity.readsBack.map model.entities (by simp)]
  rfl

/-- Every entity and every model comes back from its data value as it was. -/
theorem entity_json_loses_nothing :
    (∀ entity : Entity, Entity.ofJson? entity.toJson = some entity) ∧
      ∀ model : Model, Model.ofJson? model.toJson = some model :=
  ⟨Entity.readsBack, Model.readsBack⟩

end CodeSurvey
