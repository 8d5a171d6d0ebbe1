import CodeSurvey.Java.BodyScan
import CodeSurvey.Proofs.Java.Tree
import CodeSurvey.Proofs.NameMap

namespace CodeSurvey

namespace Java

namespace BodyScope

/-- The type on which a call or field access is made; without an object it is the enclosing one. -/
def calledType (scope : BodyScope) (call : Tree) : ScopeType :=
  ((call.child? .object).map scope.objectType).getD scope.ownType

/-- One use for every class that is named in these types. -/
def usesOf (scope : BodyScope) (types : List Tree) : List Reference :=
  types.flatMap fun type => (TypeText.classNames type.text).map fun name =>
    (Reference.typeUse name).withHint (scope.type.file.hint name)

/-- The references that a node makes by itself. -/
def referencesAt (scope : BodyScope) (tree : Tree) : List Reference :=
  match tree.kind with
  | .methodInvocation =>
    [(Reference.call (scope.calledType tree).written (roleText tree .name)).withHint
      (scope.calledType tree).hint]
  | .objectCreation =>
    (tree.child? .type).toList.map fun type =>
      (Reference.instantiation type.text).withHint (scope.type.file.hint type.text)
  | .fieldAccess =>
    (tree.child? .object).toList.map fun object =>
      (Reference.fieldAccess (scope.objectType object).written (roleText tree .field)).withHint
        (scope.objectType object).hint
  | .localVariableDeclaration | .castExpression =>
    scope.usesOf (tree.child? .type).toList
  | .catchType => scope.usesOf tree.namedChildren
  | _ => []

end BodyScope

namespace Findings

@[simp] theorem references_refer (found : Findings) (references : List Reference) :
    (found.refer references).references = found.references ++ references :=
  rfl

@[simp] theorem references_touch (found : Findings) (field : String) :
    (found.touch field).references = found.references :=
  rfl

@[simp] theorem references_branch (found : Findings) : found.branch.references = found.references :=
  rfl

variable (scope : BodyScope)

/-- What else a visit finds has no influence on the references. Some kinds of node refer to what one child names,
and make no reference without it. -/
theorem references_visit (parent : Kind) (tree : Tree) (found : Findings) :
    (visit scope parent tree found).references = found.references ++ scope.referencesAt tree := by
  unfold visit BodyScope.referencesAt
  split <;> simp_all [apply_ite references, BodyScope.calledType, BodyScope.usesOf, BodyScope.typeUses]
  case h_9 => cases tree.child? .type <;> simp
  case h_10 => cases tree.child? .object <;> simp [apply_ite references]
  case h_12 => cases tree.child? .type <;> simp
  case h_13 => cases tree.child? .type <;> simp

mutual

theorem references_scan (parent : Kind) : ∀ (tree : Tree) (found : Findings),
    (scan scope parent tree found).references = found.references ++ tree.preorder.flatMap scope.referencesAt
  | .leaf role kind content, found => by
    rw [scan, references_visit, Tree.preorder, List.flatMap_singleton]
  | .node role kind children, found => by
    rw [scan, references_scanAll kind children, references_visit, Tree.preorder, List.flatMap_cons,
      List.append_assoc]

theorem references_scanAll (parent : Kind) : ∀ (trees : List Tree) (found : Findings),
    (scanAll scope parent trees found).references =
      found.references ++ (Tree.preorderOf trees).flatMap scope.referencesAt
  | [], found => by rw [scanAll, Tree.preorderOf, List.flatMap_nil, List.append_nil]
  | tree :: trees, found => by
    rw [scanAll, references_scanAll parent trees, references_scan parent tree, Tree.preorderOf,
      List.flatMap_append, List.append_assoc]

end

end Findings

/-- The references that are found in a tree are those of its nodes, in their order. -/
theorem BodyScope.references_findings (scope : BodyScope) (parent : Kind) (tree : Tree) :
    (scope.findings parent tree).references = tree.preorder.flatMap scope.referencesAt :=
  Findings.references_scan scope parent tree {}

/-- Whether a node makes one reference of a kind: calls, creations of a written type and accesses to a field of
an object do. -/
def Tree.makes (tree : Tree) : ReferenceKind → Bool
  | .methodCall => tree.kind == .methodInvocation
  | .instantiation => tree.kind == .objectCreation && (tree.child? .type).isSome
  | .fieldAccess => tree.kind == .fieldAccess && (tree.child? .object).isSome
  | .typeUse => false

/-- The types written in a node that declares local variables, casts or catches. -/
def Tree.writtenTypes (tree : Tree) : List Tree :=
  match tree.kind with
  | .localVariableDeclaration | .castExpression => (tree.child? .type).toList
  | .catchType => tree.namedChildren
  | _ => []

@[simp] theorem kind_withHint (reference : Reference) (hint : Option String) :
    (reference.withHint hint).kind = reference.kind := by
  cases hint <;> rfl

namespace BodyScope

variable (scope : BodyScope)

theorem kind_of_mem_usesOf {types : List Tree} {reference : Reference} (made : reference ∈ scope.usesOf types) :
    reference.kind = .typeUse := by
  obtain ⟨type, _, made⟩ := List.mem_flatMap.mp made
  obtain ⟨name, _, rfl⟩ := List.mem_map.mp made
  exact kind_withHint _ _

/-- A node either makes one reference or uses the types written in it. -/
theorem referencesAt_cases (tree : Tree) :
    (∃ reference, scope.referencesAt tree = [reference] ∧ reference.kind ≠ .typeUse ∧
      tree.writtenTypes = [] ∧ ∀ kind, tree.makes kind ↔ reference.kind = kind) ∨
    scope.referencesAt tree = scope.usesOf tree.writtenTypes ∧ ∀ kind, ¬tree.makes kind := by
  unfold referencesAt
  split
  · next call =>
    refine Or.inl ⟨_, rfl, by simp [Reference.call], by simp [Tree.writtenTypes, call], fun kind => ?_⟩
    cases kind <;> simp [Tree.makes, call, Reference.call]
  · next creation =>
    cases found : tree.child? .type with
    | none =>
      refine Or.inr ⟨by simp [Tree.writtenTypes, usesOf, creation], fun kind => ?_⟩
      cases kind <;> simp [Tree.makes, creation, found]
    | some type =>
      refine Or.inl ⟨_, rfl, by simp [Reference.instantiation], by simp [Tree.writtenTypes, creation],
        fun kind => ?_⟩
      cases kind <;> simp [Tree.makes, creation, found, Reference.instantiation]
  · next access =>
    cases found : tree.child? .object with
    | none =>
      refine Or.inr ⟨by simp [Tree.writtenTypes, usesOf, access], fun kind => ?_⟩
      cases kind <;> simp [Tree.makes, access, found]
    | some object =>
      refine Or.inl ⟨_, rfl, by simp [Reference.fieldAccess], by simp [Tree.writtenTypes, access],
        fun kind => ?_⟩
      cases kind <;> simp [Tree.makes, access, found, Reference.fieldAccess]
  · next declaration =>
    refine Or.inr ⟨by simp [Tree.writtenTypes, declaration], fun kind => ?_⟩
    cases kind <;> simp [Tree.makes, declaration]
  · next cast =>
    refine Or.inr ⟨by simp [Tree.writtenTypes, cast], fun kind => ?_⟩
    cases kind <;> simp [Tree.makes, cast]
  · next catching =>
    refine Or.inr ⟨by simp [Tree.writtenTypes, catching], fun kind => ?_⟩
    cases kind <;> simp [Tree.makes, catching]
  · next call creation access _ _ _ =>
    refine Or.inr ⟨by simp [Tree.writtenTypes, usesOf, *], fun kind => ?_⟩
    cases kind <;> simp only [Tree.makes, Bool.and_eq_true, beq_iff_eq, Bool.false_eq_true, not_false_eq_true]
    · exact call
    · exact fun made => creation made.1
    · exact fun made => access made.1

theorem countP_references {kind : ReferenceKind} (single : kind ≠ .typeUse) (trees : List Tree) :
    (trees.flatMap scope.referencesAt).countP (·.kind == kind) = trees.countP (·.makes kind) := by
  induction trees with
  | nil => rfl
  | cons tree trees ih =>
    rw [List.flatMap_cons, List.countP_append, List.countP_cons, ih, Nat.add_comm]
    congr 1
    rcases scope.referencesAt_cases tree with ⟨reference, made, _, _, makes⟩ | ⟨made, makes⟩
    · rw [made, List.countP_singleton]
      simp only [makes, beq_iff_eq]
    · rw [made, if_neg (makes kind), List.countP_eq_zero]
      intro reference member same
      exact single ((beq_iff_eq.mp same).symm.trans (scope.kind_of_mem_usesOf member))

theorem filter_typeUse_references (trees : List Tree) :
    (trees.flatMap scope.referencesAt).filter (·.kind == .typeUse) =
      trees.flatMap fun tree => scope.usesOf tree.writtenTypes := by
  rw [List.filter_flatMap]
  refine List.flatMap_congr fun tree _ => ?_
  rcases scope.referencesAt_cases tree with ⟨reference, made, other, untyped, _⟩ | ⟨made, _⟩
  · rw [made, untyped, List.filter_cons_of_neg (by simpa using other)]
    rfl
  · rw [made, List.filter_eq_self]
    exact fun reference member => beq_iff_eq.mpr (scope.kind_of_mem_usesOf member)

end BodyScope

/-- Whether control may divide at a node. A label counts when it names a case, and `default` names none. -/
def Tree.divides (tree : Tree) : Bool :=
  match tree.kind with
  | .ifStatement | .whileStatement | .forStatement | .enhancedForStatement | .catchClause
  | .ternaryExpression => true
  | .switchLabel => !tree.namedChildren.isEmpty
  | _ => false

namespace Findings

@[simp] theorem branches_refer (found : Findings) (references : List Reference) :
    (found.refer references).branches = found.branches :=
  rfl

@[simp] theorem branches_touch (found : Findings) (field : String) :
    (found.touch field).branches = found.branches :=
  rfl

@[simp] theorem branches_branch (found : Findings) : found.branch.branches = found.branches + 1 :=
  rfl

variable (scope : BodyScope)

theorem branches_visit (parent : Kind) (tree : Tree) (found : Findings) :
    (visit scope parent tree found).branches = found.branches + tree.divides.toNat := by
  unfold visit Tree.divides
  split <;> simp_all [apply_ite branches]
  case h_7 => cases tree.namedChildren <;> simp
  case h_9 => cases tree.child? .type <;> simp
  case h_10 => cases tree.child? .object <;> simp [apply_ite branches]
  case h_12 => cases tree.child? .type <;> simp
  case h_13 => cases tree.child? .type <;> simp

mutual

theorem branches_scan (parent : Kind) : ∀ (tree : Tree) (found : Findings),
    (scan scope parent tree found).branches = found.branches + tree.preorder.countP Tree.divides
  | .leaf role kind content, found => by
    rw [scan, branches_visit, Tree.preorder, List.countP_singleton]
    cases Tree.divides _ <;> rfl
  | .node role kind children, found => by
    have node := branches_visit scope parent (.node role kind children) found
    rw [scan, branches_scanAll kind children, node, Tree.preorder, List.countP_cons, Nat.add_assoc,
      Nat.add_comm (List.countP _ _)]
    cases Tree.divides _ <;> rfl

theorem branches_scanAll (parent : Kind) : ∀ (trees : List Tree) (found : Findings),
    (scanAll scope parent trees found).branches = found.branches + (Tree.preorderOf trees).countP Tree.divides
  | [], found => by rw [scanAll, Tree.preorderOf, List.countP_nil, Nat.add_zero]
  | tree :: trees, found => by
    rw [scanAll, branches_scanAll parent trees, branches_scan parent tree, Tree.preorderOf,
      List.countP_append, Nat.add_assoc]

end

end Findings

/-- Every node at which control may divide is counted once. -/
theorem BodyScope.branches_findings (scope : BodyScope) (parent : Kind) (tree : Tree) :
    (scope.findings parent tree).branches = tree.preorder.countP Tree.divides :=
  (Findings.branches_scan scope parent tree {}).trans (Nat.zero_add _)

mutual

/-- The nodes in their order, each with the kind of its parent. -/
def Tree.nodesUnder (parent : Kind) : Tree → List (Kind × Tree)
  | .leaf role kind content => [(parent, .leaf role kind content)]
  | .node role kind children => (parent, .node role kind children) :: Tree.nodesUnderAll kind children

def Tree.nodesUnderAll (parent : Kind) : List Tree → List (Kind × Tree)
  | [] => []
  | tree :: trees => tree.nodesUnder parent ++ Tree.nodesUnderAll parent trees

end

/-- The fields of the enclosing type that a node touches by itself. -/
def BodyScope.fieldsAt (scope : BodyScope) (parent : Kind) (tree : Tree) : List String :=
  match tree.kind with
  | .fieldAccess =>
    ((tree.child? .object).toList.filter isThis).flatMap fun _ =>
      [roleText tree .field].filter scope.type.fields.contains
  | .identifier => [tree.text].filter (scope.isFieldUse parent tree.role)
  | _ => []

namespace Findings

@[simp] theorem accessedFields_refer (found : Findings) (references : List Reference) :
    (found.refer references).accessedFields = found.accessedFields :=
  rfl

@[simp] theorem accessedFields_branch (found : Findings) :
    found.branch.accessedFields = found.accessedFields :=
  rfl

variable {scope : BodyScope} {name : String}

theorem mem_accessedFields_touchIf {found : Findings} {field : String} {p : Prop} [Decidable p] :
    name ∈ (if p then found.touch field else found).accessedFields ↔
      name ∈ found.accessedFields ∨ name = field ∧ p := by
  by_cases holds : p
  · rw [if_pos holds, touch, NameSet.mem_insert]
    simp only [holds, and_true, or_comm]
  · rw [if_neg holds]
    simp only [holds, and_false, or_false]

theorem mem_accessedFields_visit {parent : Kind} {tree : Tree} {found : Findings} :
    name ∈ (visit scope parent tree found).accessedFields ↔
      name ∈ found.accessedFields ∨ name ∈ scope.fieldsAt parent tree := by
  unfold visit BodyScope.fieldsAt
  split <;> simp_all [mem_accessedFields_touchIf]
  case h_7 => split <;> simp
  case h_9 => cases tree.child? .type <;> simp
  case h_10 =>
    cases tree.child? .object with
    | none => simp
    | some object =>
      simp only [accessedFields_refer, mem_accessedFields_touchIf, Option.some.injEq, exists_eq_left']
      refine or_congr_right ?_
      constructor
      · rintro ⟨rfl, isThis, known⟩
        exact ⟨isThis, rfl, known⟩
      · rintro ⟨isThis, rfl, known⟩
        exact ⟨rfl, isThis, known⟩
  case h_11 =>
    refine or_congr_right (and_congr_right fun same => ?_)
    rw [same]
  case h_12 => cases tree.child? .type <;> simp
  case h_13 => cases tree.child? .type <;> simp

mutual

theorem mem_accessedFields_scan {parent : Kind} : ∀ {tree : Tree} {found : Findings},
    name ∈ (scan scope parent tree found).accessedFields ↔ name ∈ found.accessedFields ∨
      ∃ node ∈ tree.nodesUnder parent, name ∈ scope.fieldsAt node.1 node.2
  | .leaf role kind content, found => by
    rw [scan, mem_accessedFields_visit, Tree.nodesUnder]
    simp
  | .node role kind children, found => by
    rw [scan, mem_accessedFields_scanAll, mem_accessedFields_visit, Tree.nodesUnder]
    simp [or_assoc]

theorem mem_accessedFields_scanAll {parent : Kind} : ∀ {trees : List Tree} {found : Findings},
    name ∈ (scanAll scope parent trees found).accessedFields ↔ name ∈ found.accessedFields ∨
      ∃ node ∈ Tree.nodesUnderAll parent trees, name ∈ scope.fieldsAt node.1 node.2
  | [], found => by
    rw [scanAll, Tree.nodesUnderAll]
    simp
  | tree :: trees, found => by
    rw [scanAll, mem_accessedFields_scanAll, mem_accessedFields_scan, Tree.nodesUnderAll, or_assoc,
      ← exists_or]
    simp only [List.mem_append, or_and_right]

end

end Findings

/-- The fields that a tree is found to touch are those that its nodes touch. -/
theorem BodyScope.mem_accessedFields_findings {scope : BodyScope} {parent : Kind} {tree : Tree} {name : String} :
    name ∈ (scope.findings parent tree).accessedFields ↔
      ∃ node ∈ tree.nodesUnder parent, name ∈ scope.fieldsAt node.1 node.2 := by
  rw [findings, Findings.mem_accessedFields_scan]
  exact or_iff_right Std.ExtTreeSet.not_mem_empty

end Java

end CodeSurvey
