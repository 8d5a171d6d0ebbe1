import CodeSurvey.Analysis.Basic
import CodeSurvey.Proofs.Java.BodyScan
import CodeSurvey.Proofs.Java.Declaration
import CodeSurvey.Proofs.Unused

namespace CodeSurvey

namespace Java

namespace DeclaredType

/-- The code of a type: the bodies of its methods and constructors, the initial values of its fields, its
initializer blocks and the constants of an enum. -/
inductive HoldsCode (type : DeclaredType) : Tree → Prop
  | body {declaration body} (declared : type.Declares declaration)
      (callable : declaration.kind ∈
        [.methodDeclaration, .constructorDeclaration, .compactConstructorDeclaration])
      (found : declaration.child? .body = some body) : HoldsCode type body
  | initialValue {declaration declarator value} (declared : type.Declares declaration)
      (field : declaration.kind ∈ [.fieldDeclaration, .constantDeclaration])
      (declares : declarator ∈ declaration.childrenAs .declarator)
      (found : declarator.child? .value = some value) : HoldsCode type value
  | initializer {declaration} (declared : type.Declares declaration)
      (initializer : declaration.kind ∈ [.staticInitializer, .block, .enumConstant]) :
      HoldsCode type declaration

end DeclaredType

/-- A call `m(...)` or `this.m(...)` of a method with this name. -/
structure IsOwnCall (call : Tree) (method : String) : Prop where
  invocation : call.kind = .methodInvocation
  unscoped : ∀ object, call.child? .object = some object → object.kind = .this
  name : BodyScope.roleText call .name = method

/-- The reference that a type makes by calling a method of its own. -/
def ownReference (scope : TypeScope) (method : String) : Reference :=
  (Reference.call (some scope.simpleName) method).withHint (some scope.qualifiedName)

namespace BodyScope

theorem objectType_this (scope : BodyScope) {object : Tree} (isThis : object.kind = .this) :
    scope.objectType object = scope.ownType := by
  cases object with
  | leaf role kind content =>
    cases isThis
    rfl
  | node role kind children =>
    cases isThis
    rfl

theorem calledType_own (scope : BodyScope) {call : Tree} {method : String} (own : IsOwnCall call method) :
    scope.calledType call = scope.ownType := by
  unfold calledType
  cases object : call.child? .object with
  | none => rfl
  | some object => exact scope.objectType_this (own.unscoped _ object)

/-- Wherever a call to the own type stands in a tree, the scan of the tree records it. -/
theorem ownReference_mem_findings (scope : BodyScope) (parent : Kind) {tree call : Tree} {method : String}
    (inside : call ∈ tree.preorder) (own : IsOwnCall call method) :
    ownReference scope.type method ∈ (scope.findings parent tree).references := by
  rw [references_findings]
  refine List.mem_flatMap.mpr ⟨call, inside, ?_⟩
  rw [referencesAt, own.invocation, calledType_own scope own, own.name]
  exact List.mem_singleton_self _

end BodyScope

namespace DeclaredType

variable {type : DeclaredType} {file : FileContext} {declaration : Tree}

theorem references_callable (scope : TypeScope) (inInterface : Bool) {body : Tree}
    (found : declaration.child? .body = some body) :
    (Declaration.callable scope inInterface declaration).references =
      ((BodyScope.ofBody scope (Declaration.signature inInterface declaration).parameters body).findings
        declaration.kind body).references := by
  rw [Declaration.callable_of_body scope inInterface found]

/-- The initial values of all variables are scanned, since each of them has a name and a type. -/
theorem mem_initialReferences {unit declarator value : Tree} {scope : TypeScope} {reference : Reference}
    (wellDeclared : WellDeclared unit) (inside : declaration ∈ unit.preorder)
    (field : Declaration.isField declaration) (declares : declarator ∈ declaration.childrenAs .declarator)
    (found : declarator.child? .value = some value)
    (made : reference ∈ ((BodyScope.outside scope).findings declarator.kind value).references) :
    reference ∈ Declaration.initialReferences scope declaration := by
  cases declaration with
  | leaf => cases declares
  | node =>
    cases declarator with
    | leaf => cases found
    | node role kind children =>
      obtain ⟨type, typed⟩ := wellDeclared.fieldTyped _ _ _ inside field
      obtain ⟨name, named⟩ := wellDeclared.variableNamed _ inside field _ _ _ declares
      have isVariable : (name.text, Tree.node role kind children) ∈ Declaration.declaredNames _ :=
        List.mem_filterMap.mpr ⟨_, declares, by rw [named, Option.map_some]⟩
      unfold Declaration.initialReferences
      rw [typed]
      refine List.mem_flatMap.mpr ⟨_, isVariable, ?_⟩
      dsimp only
      rwa [found]

theorem callable_mem_members (declares : type.Declares declaration)
    (callable : declaration.kind ∈
      [.methodDeclaration, .constructorDeclaration, .compactConstructorDeclaration]) :
    Declaration.callable (type.scope file) type.isInterface declaration ∈ (type.entity file).members := by
  have member := declares.mem_declarations callable (by decide)
  refine List.mem_append_right _ (List.mem_flatMap.mpr ⟨declaration, member, ?_⟩)
  simp only [List.mem_cons, List.not_mem_nil, or_false] at callable
  rcases callable with kind | kind | kind <;>
    simp [membersOf, Declaration.isField, Declaration.isCallable, Declaration.isConstructor, kind]

theorem findings_subset_references (declares : type.Declares declaration)
    (initializer : declaration.kind ∈ [.staticInitializer, .block, .enumConstant]) :
    ((BodyScope.outside (type.scope file)).findings .classBody declaration).references ⊆
      (type.entity file).references := by
  have member := declares.mem_declarations initializer (by decide)
  have scanned : referencesOf (type.scope file) declaration =
      ((BodyScope.outside (type.scope file)).findings .classBody declaration).references := by
    simp only [List.mem_cons, List.not_mem_nil, or_false] at initializer
    rcases initializer with kind | kind | kind <;>
      simp [referencesOf, Declaration.isField, isInitializer, kind]
  exact fun reference made => List.mem_flatMap.mpr ⟨declaration, member, scanned ▸ made⟩

theorem ownReference_mem_codeReferences {unit code call : Tree} {method : String}
    (wellDeclared : WellDeclared unit) (isIn : type.IsIn unit.preorder) (holds : type.HoldsCode code)
    (inside : call ∈ code.preorder) (own : IsOwnCall call method) :
    ownReference (type.scope file) method ∈ (type.entity file).codeReferences := by
  have recorded (scope : BodyScope) (ofType : scope.type = type.scope file) (parent : Kind) :
      ownReference (type.scope file) method ∈ (scope.findings parent code).references :=
    ofType ▸ scope.ownReference_mem_findings parent inside own
  rw [Entity.codeReferences, List.mem_append]
  cases holds with
  | body declares callable found =>
    left
    refine List.mem_flatMap.mpr ⟨_, callable_mem_members declares callable, ?_⟩
    rw [references_callable _ _ found]
    exact recorded _ rfl _
  | @initialValue declaration _ _ declared kind declares found =>
    right
    have member := declared.mem_declarations kind (by decide)
    have below := Tree.preorder_trans declared.mem_preorder isIn.1
    have field : Declaration.isField declaration := by simpa [Declaration.isField] using kind
    refine List.mem_flatMap.mpr ⟨_, member, ?_⟩
    rw [referencesOf, if_pos field]
    exact mem_initialReferences wellDeclared below field declares found (recorded _ rfl _)
  | initializer declared kind =>
    right
    exact findings_subset_references declared kind (recorded _ rfl _)

end DeclaredType

end Java

/-- Where a call of a type's method by the type itself shows in a result. -/
structure DependencyResult.ShowsOwnCall (result : DependencyResult) (type method : String) : Prop where
  counted : 1 ≤ result.graph.callCounts.getD (type ++ "." ++ method) 0
  depends : result.graph.classDependencies.Edge type type
  selfLoop : type ∈ result.cycles.selfLoops
  usedClass : type ∉ result.unusedClasses
  usedMethod : type ++ "." ++ method ∉ result.unusedMethods

section Shows

variable {model : Model} {entity : Entity} {scope : Java.TypeScope} {method : String}

/-- The hint decides, whatever entities bear the simple name. -/
theorem target_ownReference (known : model.contains scope.qualifiedName) (named : IsName scope.simpleName) :
    (Occurrence.coded (Java.ownReference scope method)).target (Resolver.ofModel model) =
      some scope.qualifiedName := by
  have written : (Java.ownReference scope method).target = some scope.simpleName := rfl
  have hint : (Java.ownReference scope method).resolved = some scope.qualifiedName := rfl
  have nonempty : TypeText.className scope.simpleName ≠ "" := by
    rw [named.className_eq]
    exact named.1
  rw [Occurrence.target, written, Option.bind_some, Resolver.resolve_of_named nonempty,
    Resolver.exact_of_guess hint known, Option.some_or]

theorem showsOwnCall_of_mem (keyed : model.Keyed) (inside : entity ∈ model.toList)
    (same : entity.qualifiedName = scope.qualifiedName) (named : IsName scope.simpleName)
    (coded : Java.ownReference scope method ∈ entity.codeReferences) (config : Config)
    (skipped : List SkippedFile) :
    (DependencyResult.ofModel config model skipped).ShowsOwnCall entity.qualifiedName method := by
  have known : model.contains scope.qualifiedName := same ▸ keyed.contains_of_mem inside
  have target : (Occurrence.coded (Java.ownReference scope method)).target (Resolver.ofModel model) =
      some entity.qualifiedName := same ▸ target_ownReference known named
  have occurs := Entity.coded_mem_occurrences.mpr coded
  have calls : (Occurrence.coded (Java.ownReference scope method)).Calls (Resolver.ofModel model)
      (entity.qualifiedName ++ "." ++ method) := (Occurrence.calls_iff target).mpr ⟨rfl, rfl⟩
  have counted : (DependencyGraph.build model).callCounts.getD (entity.qualifiedName ++ "." ++ method) 0 ≠ 0 :=
    fun uncalled => (DependencyGraph.callCounts_eq_zero_iff.mp uncalled entity inside _ occurs).1 calls
  have edge : (DependencyGraph.build model).classDependencies.Edge entity.qualifiedName
      entity.qualifiedName :=
    (DependencyGraph.edge_classDependencies keyed).mpr ⟨entity, inside, rfl, _, occurs, target⟩
  refine ⟨Nat.one_le_iff_ne_zero.mpr counted, edge, ?_, ?_, ?_⟩
  · exact (CycleReport.selfLoops_ofGraph _ _).symm ▸ CycleReport.mem_selfLoopsOf.mpr edge
  · exact fun listed => Unused.noEdge_of_mem_classes keyed listed entity.qualifiedName edge
  · exact fun listed => counted (Unused.mem_methods.mp listed).2.2

end Shows

namespace Java

/-- A call that a type makes to itself always counts, wherever in the code of the type it stands and
whatever the other types are called. -/
theorem own_calls_count (files : List (String × Tree)) (config : Config) (skipped : List SkippedFile) :
    let model := Model.ofList (files.flatMap fun file => extract file.1 file.2)
    ∀ file ∈ files, WellDeclared file.2 → ∀ type ∈ file.2.children.flatMap (DeclaredType.declaredBy none),
      let entity := type.entity (FileContext.ofUnit file.1 file.2)
      entity ∈ model.toList → ∀ code, type.HoldsCode code → ∀ call ∈ code.preorder, ∀ method,
        IsOwnCall call method →
          (DependencyResult.ofModel config model skipped).ShowsOwnCall entity.qualifiedName method := by
  intro model file member wellDeclared type declared entity kept code holds call inside method own
  obtain ⟨child, isChild, declaredBy⟩ := List.mem_flatMap.mp declared
  have isIn : type.IsIn file.2.preorder := (DeclaredType.isIn_of_declaredBy declaredBy).mono fun tree =>
    Tree.mem_preorder_of_child isChild
  have named : IsName type.name := DeclaredType.isName_of_isIn wellDeclared isIn
  have coded : ownReference (type.scope (FileContext.ofUnit file.1 file.2)) method ∈ entity.codeReferences :=
    DeclaredType.ownReference_mem_codeReferences wellDeclared isIn holds inside own
  exact showsOwnCall_of_mem (Model.ofList_keyed _) kept rfl named coded config skipped

/-- A nested type calls itself from an initializer block, and another type has its simple name. -/
def homonyms : List (String × String) :=
  [("A.java", "package q; class A \x7b \x7d"),
    ("B.java", "class B \x7b class A \x7b \x7b this.run(); \x7d void run() \x7b \x7d \x7d \x7d")]

def homonymFiles : List (String × Tree) :=
  treesOf homonyms

def homonymModel : Model :=
  .ofList (homonymFiles.flatMap fun file => extract file.1 file.2)

theorem own_calls_count_homonyms :
    homonymModel.names = ["B", "B.A", "q.A"] ∧
      (∃ file ∈ homonymFiles, WellDeclared file.2 ∧
        ∃ type ∈ file.2.children.flatMap (DeclaredType.declaredBy none),
          ∃ code, type.HoldsCode code ∧ ∃ call ∈ code.preorder, IsOwnCall call "run") ∧
      (DependencyResult.ofModel {} homonymModel []).ShowsOwnCall "B.A" "run" := by
  have evaluated : homonymModel.names = ["B", "B.A", "q.A"] ∧
      ∃ file ∈ homonymFiles, ∃ type ∈ file.2.children.flatMap (DeclaredType.declaredBy none),
        (type.entity (FileContext.ofUnit file.1 file.2)).qualifiedName = "B.A" ∧
        type.entity (FileContext.ofUnit file.1 file.2) ∈ homonymModel.toList ∧
        ∃ body ∈ (type.tree.child? .body).toList, ∃ declaration ∈ body.children, declaration.kind = .block ∧
          ∃ call ∈ declaration.preorder, call.kind = .methodInvocation ∧
            (call.child? .object).all (·.kind == .this) ∧ BodyScope.roleText call .name = "run" := by
    decide +kernel
  obtain ⟨names, file, member, type, declared, name, kept, body, found, declaration, inBody, block, call,
    inside, invocation, onThis, method⟩ := evaluated
  have own : IsOwnCall call "run" := ⟨invocation, fun object found => by simpa [found] using onThis, method⟩
  have holds : type.HoldsCode declaration :=
    .initializer (.inBody (Option.mem_toList.mp found) inBody) (by simp [block])
  have wellDeclared := wellDeclared_of_mem_treesOf file member
  refine ⟨names, ⟨file, member, wellDeclared, type, declared, declaration, holds, call, inside, own⟩, ?_⟩
  rw [← name]
  exact own_calls_count homonymFiles {} [] file member wellDeclared type declared kept declaration holds call
    inside "run" own

end Java

end CodeSurvey
