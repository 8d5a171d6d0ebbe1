import CodeSurvey.Proofs.Java.BodyScan
import CodeSurvey.Proofs.Java.Declaration

namespace CodeSurvey

namespace Java

/-- A node that names a field of the enclosing type, if there is one of that name: a field of `this`, or a bare
name that stands for no variable of the body. -/
inductive BodyScope.MayName (scope : BodyScope) (name : String) (parent : Kind) : Tree → Prop
  | ofThis {tree object} (kind : tree.kind = .fieldAccess) (found : tree.child? .object = some object)
      (this : isThis object) (named : roleText tree .field = name) : MayName scope name parent tree
  | bare {tree} (kind : tree.kind = .identifier) (named : tree.text = name)
      (unhidden : name ∉ scope.locals) (used : namesOther parent tree.role = false) :
      MayName scope name parent tree

theorem BodyScope.mem_fieldsAt_iff {scope : BodyScope} {parent : Kind} {tree : Tree} {name : String} :
    name ∈ scope.fieldsAt parent tree ↔ name ∈ scope.type.fields ∧ scope.MayName name parent tree := by
  constructor
  · intro touched
    unfold fieldsAt at touched
    split at touched
    · next kind =>
      obtain ⟨object, onThis, kept⟩ := List.mem_flatMap.mp touched
      obtain ⟨found, this⟩ := List.mem_filter.mp onThis
      obtain ⟨named, known⟩ := List.mem_filter.mp kept
      exact ⟨Std.ExtTreeMap.contains_iff_mem.mp known,
        .ofThis kind (Option.mem_toList.mp found) this (List.mem_singleton.mp named).symm⟩
    · next kind =>
      obtain ⟨named, used⟩ := List.mem_filter.mp touched
      cases List.mem_singleton.mp named
      simp only [isFieldUse, Bool.and_eq_true, Bool.not_eq_true'] at used
      obtain ⟨⟨known, unhidden⟩, used⟩ := used
      refine ⟨Std.ExtTreeMap.contains_iff_mem.mp known, .bare kind rfl (fun hidden => ?_) used⟩
      rw [Std.ExtTreeMap.contains_iff_mem.mpr hidden] at unhidden
      cases unhidden
    · cases touched
  · rintro ⟨known, mayName⟩
    have contained := Std.ExtTreeMap.contains_iff_mem.mpr known
    cases mayName with
    | ofThis kind found this named => simp [fieldsAt, kind, found, this, named, contained]
    | bare kind named unhidden used =>
      have free : scope.locals.contains name = false :=
        Bool.eq_false_iff.mpr (mt Std.ExtTreeMap.contains_iff_mem.mp unhidden)
      simp [fieldsAt, isFieldUse, kind, named, free, used, contained]

namespace DeclaredType

variable (file : FileContext) (type : DeclaredType)

theorem names_fields_components :
    type.components.filter (·.kind == .field) = type.components ∧
      (type.components.filterMap fun m => m.typeName.map (m.name, ·)).map (·.1) =
        type.components.map (·.name) := by
  unfold components
  split
  · simp [List.filterMap_map, Member.field, Function.comp_def]
  · exact ⟨rfl, rfl⟩

theorem names_fields_membersOf (scope : TypeScope) (inInterface : Bool) (declaration : Tree) :
    ((membersOf scope inInterface declaration).filter (·.kind == .field)).map (·.name) =
      ((match Declaration.isField declaration, declaration.child? .type with
        | true, some written => (Declaration.declaredNames declaration).map fun v => (v.1, written.text)
        | _, _ => []) : List (String × String)).map (·.1) := by
  unfold membersOf
  cases field : Declaration.isField declaration with
  | true =>
    rw [if_pos rfl, List.filter_eq_self.mpr fun member declared => by
      rw [(Declaration.codeless_of_mem_fields declared).1]
      rfl]
    unfold Declaration.fields
    cases declaration.child? .type with
    | none => rfl
    | some written => simp [Member.field, Function.comp_def]
  | false =>
    rw [if_neg Bool.false_ne_true]
    split
    · have callable := Declaration.isCallable_callable scope inInterface declaration
      rw [Member.isCallable, bne, Bool.not_eq_true'] at callable
      rw [List.filter_cons_of_neg (by rw [callable]; exact Bool.false_ne_true), List.filter_nil]
      rfl
    · rfl

/-- The two lists of the fields of a type agree on their names. -/
theorem names_fields_entity :
    (type.entity file).fields.map (·.name) = type.fieldTypes.map (·.1) := by
  obtain ⟨allFields, typed⟩ := type.names_fields_components
  unfold Entity.fields fieldTypes
  rw [entity, List.filter_append, allFields, List.map_append, List.map_append, typed, List.filter_flatMap,
    List.map_flatMap, List.map_flatMap]
  refine congrArg (_ ++ ·) (List.flatMap_congr fun declaration _ => ?_)
  exact names_fields_membersOf (type.scope file) type.isInterface declaration

theorem mem_fields_scope {name : String} :
    name ∈ (type.scope file).fields ↔ name ∈ (type.entity file).fields.map (·.name) := by
  rw [names_fields_entity]
  refine (NameMap.mem_foldl_insert Prod.fst Prod.snd type.fieldTypes ∅ name).trans ?_
  exact or_iff_left Std.ExtTreeMap.not_mem_empty

theorem callable_accessedFields {declaration body : Tree} (found : declaration.child? .body = some body) :
    let member := Declaration.callable (type.scope file) type.isInterface declaration
    let scope := BodyScope.ofBody (type.scope file) member.parameters body
    member.accessedFields.Pairwise (· < ·) ∧ ∀ name, name ∈ member.accessedFields ↔
      name ∈ (type.entity file).fields.map (·.name) ∧
        ∃ node ∈ body.nodesUnder declaration.kind, scope.MayName name node.1 node.2 := by
  intro member scope
  have read := Declaration.callable_of_body (type.scope file) type.isInterface found
  have same : member.accessedFields = (scope.findings declaration.kind body).accessedFields.toList := by
    simp only [member, scope, read]
  rw [same]
  refine ⟨NameSet.toList_ascending _, fun name => ?_⟩
  rw [Std.ExtTreeSet.mem_toList, BodyScope.mem_accessedFields_findings, ← mem_fields_scope]
  simp only [BodyScope.mem_fieldsAt_iff]
  constructor
  · rintro ⟨node, below, known, mayName⟩
    exact ⟨known, node, below, mayName⟩
  · rintro ⟨known, node, below, mayName⟩
    exact ⟨node, below, known, mayName⟩

/-- The fields that the members of a type access. -/
structure AccessesFields (file : FileContext) (type : DeclaredType) : Prop where
  /-- bodies see the fields of the entity -/
  seen : ∀ name, name ∈ (type.scope file).fields ↔ name ∈ (type.entity file).fields.map (·.name)
  ascending : ∀ member ∈ (type.entity file).members, member.accessedFields.Pairwise (· < ·)
  declared : ∀ member ∈ (type.entity file).members,
    member.accessedFields ⊆ (type.entity file).fields.map (·.name)
  /-- a body accesses all fields that its nodes name -/
  named : ∀ declaration ∈ type.declarations, Declaration.isCallable declaration →
    ∀ body, declaration.child? .body = some body →
      let member := Declaration.callable (type.scope file) type.isInterface declaration
      let scope := BodyScope.ofBody (type.scope file) member.parameters body
      member ∈ (type.entity file).members ∧ ∀ name ∈ (type.entity file).fields.map (·.name),
        name ∈ member.accessedFields ↔
          ∃ node ∈ body.nodesUnder declaration.kind, scope.MayName name node.1 node.2

theorem accessesFields : type.AccessesFields file where
  seen _ := type.mem_fields_scope file
  ascending member inside := by
    rcases codeless_or_callable inside with codeless | ⟨declaration, body, found, rfl⟩
    · rw [codeless.accessedFields]
      exact List.Pairwise.nil
    · exact (type.callable_accessedFields file found).1
  declared member inside := by
    rcases codeless_or_callable inside with codeless | ⟨declaration, body, found, rfl⟩
    · rw [codeless.accessedFields]
      exact List.nil_subset _
    · exact fun name accessed => (((type.callable_accessedFields file found).2 name).mp accessed).1
  named declaration declares callable body found := by
    have added := membersOf_of_isCallable callable (type.scope file) type.isInterface
    have inside := List.mem_flatMap.mpr ⟨declaration, declares, added ▸ List.mem_singleton_self _⟩
    refine ⟨List.mem_append_right _ inside, fun name isField => ?_⟩
    rw [(type.callable_accessedFields file found).2 name]
    exact and_iff_right isField

end DeclaredType

/-- Every accessed field is a field of the entity, and bodies see all of these. -/
theorem accessed_fields_are_declared (path : String) (unit : Tree) :
    ∀ entity ∈ extract path unit, ∃ type ∈ unit.children.flatMap (DeclaredType.declaredBy none),
      entity = type.entity (FileContext.ofUnit path unit) ∧
        type.AccessesFields (FileContext.ofUnit path unit) := by
  intro entity extracted
  obtain ⟨type, declared, rfl⟩ := List.mem_map.mp extracted
  exact ⟨type, declared, rfl, type.accessesFields _⟩

/-- A component and a field declared last are accessed. A local variable hides the other component. -/
def pointSource : String :=
  "record Point(int x, int y) \x7b int sum() \x7b int y = 1; made = y; return this.x + y; \x7d" ++
    " static int made; \x7d"

theorem accessed_fields_are_declared_point :
    ∃ unit, parse? pointSource = some unit ∧ ∃ entity ∈ extract "Point.java" unit,
      entity.fields.map (·.name) = ["x", "y", "made"] ∧
      entity.callables.map (·.accessedFields) = [["made", "x"]] ∧
      ∃ type ∈ unit.children.flatMap (DeclaredType.declaredBy none),
        entity = type.entity (FileContext.ofUnit "Point.java" unit) ∧
          type.AccessesFields (FileContext.ofUnit "Point.java" unit) := by
  have evaluated : ∃ unit ∈ (parse? pointSource).toList, ∃ entity ∈ extract "Point.java" unit,
      entity.fields.map (·.name) = ["x", "y", "made"] ∧
      entity.callables.map (·.accessedFields) = [["made", "x"]] := by
    decide +kernel
  obtain ⟨unit, parsed, entity, extracted, fields, accessed⟩ := evaluated
  exact ⟨unit, Option.mem_toList.mp parsed, entity, extracted, fields, accessed,
    accessed_fields_are_declared "Point.java" unit entity extracted⟩

end Java

end CodeSurvey
