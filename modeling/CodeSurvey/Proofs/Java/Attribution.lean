import Mathlib.Data.List.Perm.Basic
import CodeSurvey.Proofs.Java.BodyScan
import CodeSurvey.Proofs.Java.Declaration
import CodeSurvey.Proofs.Java.Position

namespace CodeSurvey

namespace Java

namespace Node

/-- The member declarations in the body of a type declaration. -/
def declarations (node : Node) : List Node :=
  (node.child? .body).toList.flatMap fun body =>
    body.namedChildren.flatMap fun declaration =>
      if declaration.tree.kind == .enumBodyDeclarations then declaration.namedChildren else [declaration]

/-- The body of a method or constructor. -/
def body? (declaration : Node) : Option Node :=
  if Declaration.isCallable declaration.tree then declaration.child? .body else none

/-- The initial values of a field declaration. -/
def initialValues (declaration : Node) : List Node :=
  if (declaration.tree.child? .type).isSome then
    (declaration.childrenAs .declarator).flatMap fun declarator =>
      if (declarator.tree.child? .name).isSome then (declarator.child? .value).toList else []
  else []

/-- The code in a declaration that belongs to no member. -/
def looseCode (declaration : Node) : List Node :=
  if Declaration.isField declaration.tree then declaration.initialValues
  else if DeclaredType.isInitializer declaration.tree then [declaration]
  else []

theorem map_tree_declarations {node : Node} {type : DeclaredType} (same : type.tree = node.tree) :
    node.declarations.map tree = type.declarations := by
  rw [declarations, DeclaredType.declarations, same, ← map_tree_child?]
  cases node.child? .body with
  | none => rfl
  | some body =>
    dsimp only [Option.map_some]
    rw [Option.toList_some, List.flatMap_singleton, List.map_flatMap, ← map_tree_namedChildren,
      List.flatMap_map]
    refine List.flatMap_congr fun declaration _ => ?_
    split
    · exact map_tree_namedChildren declaration
    · rfl

theorem holds_declarations (node : Node) : node.Holds node.declarations := by
  refine (Holds.child? node .body).flatMap fun body _ => ?_
  refine (Holds.namedChildren body).flatMap fun declaration _ => ?_
  split
  · exact Holds.namedChildren declaration
  · exact Holds.self declaration

theorem sizeOf_lt_of_mem_declarations {node declaration : Node} (listed : declaration ∈ node.declarations) :
    sizeOf declaration.tree < sizeOf node.tree := by
  obtain ⟨body, found, listed⟩ := List.mem_flatMap.mp listed
  obtain ⟨inner, inBody, listed⟩ := List.mem_flatMap.mp listed
  have atBody := sizeOf_lt_of_mem_children (mem_children_of_child? (Option.mem_toList.mp found))
  have atInner := sizeOf_lt_of_mem_children (List.mem_of_mem_filter inBody)
  split at listed
  · have atListed := sizeOf_lt_of_mem_children (List.mem_of_mem_filter listed)
    omega
  · cases List.mem_singleton.mp listed
    omega

end Node

/-- A type declaration at its place in a file. -/
structure PlacedType where
  node : Node
  type : DeclaredType
  tree_eq : type.tree = node.tree

namespace Node

/-- The type that a node declares, followed by those declared in its body. -/
def types (outer : Option String) (node : Node) : List PlacedType :=
  match declares : DeclaredType.ofTree? outer node.tree with
  | some type =>
    ⟨node, type, DeclaredType.tree_of_ofTree? declares⟩ ::
      node.declarations.attach.flatMap fun declaration => declaration.1.types (some type.localName)
  | none => []
termination_by sizeOf node.tree
decreasing_by exact sizeOf_lt_of_mem_declarations declaration.2

section Types

variable {outer : Option String} {node : Node} {type : DeclaredType}

theorem types_of_declares (declares : DeclaredType.ofTree? outer node.tree = some type) :
    node.types outer = ⟨node, type, DeclaredType.tree_of_ofTree? declares⟩ ::
      node.declarations.flatMap (types (some type.localName)) := by
  rw [types]
  split
  · next found =>
    cases found.symm.trans declares
    rw [List.flatMap_subtype fun _ _ => rfl, List.unattach_attach]
  · next missing => cases missing.symm.trans declares

theorem types_of_none (missing : DeclaredType.ofTree? outer node.tree = none) : node.types outer = [] := by
  rw [types]
  split
  · next found => cases found.symm.trans missing
  · rfl

end Types

/-- Without their places, these are the types that the tree declares. -/
theorem map_type_types (outer : Option String) (node : Node) :
    (node.types outer).map (·.type) = DeclaredType.declaredBy outer node.tree := by
  rw [DeclaredType.declaredBy_eq]
  cases declares : DeclaredType.ofTree? outer node.tree with
  | none =>
    rw [types_of_none declares]
    rfl
  | some type =>
    have same := DeclaredType.tree_of_ofTree? declares
    rw [types_of_declares declares, Option.toList_some, List.flatMap_singleton, List.map_cons, List.map_flatMap,
      ← map_tree_declarations same, List.flatMap_map]
    refine congrArg (type :: ·) (List.flatMap_congr fun declaration listed => ?_)
    have smaller := sizeOf_lt_of_mem_declarations listed
    exact map_type_types (some type.localName) declaration
termination_by sizeOf node.tree

/-- The pieces of code in a declaration. -/
def code (declaration : Node) : List Node :=
  declaration.body?.toList ++ declaration.looseCode

theorem holds_looseCode (declaration : Node) : declaration.Holds declaration.looseCode := by
  unfold looseCode initialValues
  split
  · split
    · refine (Holds.childrenAs declaration .declarator).flatMap fun declarator _ => ?_
      split
      · exact Holds.child? declarator .value
      · exact Holds.nil declarator
    · exact Holds.nil declaration
  · split
    · exact Holds.self declaration
    · exact Holds.nil declaration

theorem looseCode_of_isCallable {declaration : Node} (callable : Declaration.isCallable declaration.tree) :
    declaration.looseCode = [] := by
  simp only [Declaration.isCallable, Declaration.isConstructor, Bool.or_eq_true, beq_iff_eq] at callable
  rcases callable with (kind | kind) | kind | kind <;>
    simp [looseCode, Declaration.isField, DeclaredType.isInitializer, kind]

/-- The body of a method and the code of other declarations exclude each other. -/
theorem holds_code (declaration : Node) : declaration.Holds declaration.code := by
  unfold code body?
  split
  · next callable =>
    rw [looseCode_of_isCallable callable, List.append_nil]
    exact Holds.child? declaration .body
  · exact holds_looseCode declaration

/-- A declaration of a type holds no code of its own. -/
theorem code_of_declares {outer : Option String} {declaration : Node} {type : DeclaredType}
    (declares : DeclaredType.ofTree? outer declaration.tree = some type) : declaration.code = [] := by
  have isType := DeclaredType.kind_of_ofTree? declares
  simp only [typeDeclarations, List.mem_cons, List.not_mem_nil, or_false, Prod.mk.injEq] at isType
  rcases isType with ⟨kind, _⟩ | ⟨kind, _⟩ | ⟨kind, _⟩ | ⟨kind, _⟩ | ⟨kind, _⟩ <;>
    simp [code, body?, looseCode, Declaration.isCallable, Declaration.isConstructor, Declaration.isField,
      DeclaredType.isInitializer, kind]

end Node

namespace PlacedType

def bodies (placed : PlacedType) : List Node :=
  placed.node.declarations.flatMap (·.body?.toList)

def looseCode (placed : PlacedType) : List Node :=
  placed.node.declarations.flatMap (·.looseCode)

/-- All pieces of code that are scanned for a type and its members. -/
def code (placed : PlacedType) : List Node :=
  placed.bodies ++ placed.looseCode

end PlacedType

namespace Node

/-- The code of all types that a node declares falls into pieces that do not overlap. It is listed with the
code of a type before that of the types in it; taken by declarations instead, each has only one of the two. -/
theorem holds_code_types (outer : Option String) (node : Node) :
    node.Holds ((node.types outer).flatMap PlacedType.code) := by
  cases declares : DeclaredType.ofTree? outer node.tree with
  | none =>
    rw [types_of_none declares]
    exact Holds.nil node
  | some type =>
    rw [types_of_declares declares, List.flatMap_cons, List.flatMap_assoc]
    have own := List.flatMap_append_perm node.declarations (·.body?.toList) looseCode
    refine Holds.perm ?_ ((own.append_right _).trans (List.flatMap_append_perm _ _ _))
    refine node.holds_declarations.flatMap fun declaration listed => ?_
    have smaller := sizeOf_lt_of_mem_declarations listed
    have nested := holds_code_types (some type.localName) declaration
    cases declares : DeclaredType.ofTree? (some type.localName) declaration.tree with
    | none =>
      rw [types_of_none declares, List.flatMap_nil, List.append_nil]
      exact declaration.holds_code
    | some inner =>
      have empty : declaration.body?.toList ++ declaration.looseCode = [] := code_of_declares declares
      rw [empty, List.nil_append]
      exact nested
termination_by sizeOf node.tree

/-- The references made below a node, in the order of the nodes that make them. -/
def referencesIn (scope : BodyScope) (piece : Node) : List Reference :=
  piece.nodes.flatMap fun node => scope.referencesAt node.tree

theorem references_findings (scope : BodyScope) (parent : Kind) (piece : Node) :
    (scope.findings parent piece.tree).references = piece.referencesIn scope := by
  rw [BodyScope.references_findings, ← map_tree_nodes, List.flatMap_map, referencesIn]

theorem initialReferences_tree (scope : TypeScope) (declaration : Node) :
    Declaration.initialReferences scope declaration.tree =
      declaration.initialValues.flatMap (referencesIn (BodyScope.outside scope)) := by
  unfold Declaration.initialReferences initialValues Declaration.declaredNames
  cases declaration.tree.child? .type with
  | none => rfl
  | some type =>
    dsimp only [Option.isSome_some]
    rw [if_pos rfl, ← map_tree_childrenAs, List.filterMap_map, List.filterMap_eq_flatMap_toList,
      List.flatMap_assoc, List.flatMap_assoc]
    refine List.flatMap_congr fun declarator _ => ?_
    dsimp only [Function.comp_apply]
    cases declarator.tree.child? .name with
    | none => rfl
    | some name =>
      rw [Option.map_some, Option.toList_some, List.flatMap_singleton, Option.isSome_some, if_pos rfl]
      dsimp only
      rw [← map_tree_child?]
      cases declarator.child? .value with
      | none => rfl
      | some value =>
        rw [Option.toList_some, List.flatMap_singleton]
        exact references_findings _ _ value

/-- The references made in loose code go to the entity. -/
theorem referencesOf_tree (scope : TypeScope) (declaration : Node) :
    DeclaredType.referencesOf scope declaration.tree =
      declaration.looseCode.flatMap (referencesIn (BodyScope.outside scope)) := by
  unfold DeclaredType.referencesOf looseCode
  split
  · exact initialReferences_tree scope declaration
  · split
    · rw [List.flatMap_singleton]
      exact references_findings _ _ declaration
    · rfl

end Node

namespace DeclaredType

variable (file : FileContext) (type : DeclaredType)

theorem filter_isCallable_membersOf (scope : TypeScope) (inInterface : Bool) (declaration : Tree) :
    (membersOf scope inInterface declaration).filter (·.isCallable) =
      if Declaration.isCallable declaration then [Declaration.callable scope inInterface declaration]
      else [] := by
  by_cases callable : Declaration.isCallable declaration
  · rw [membersOf_of_isCallable callable, if_pos callable,
      List.filter_cons_of_pos (Declaration.isCallable_callable _ _ _), List.filter_nil]
  · rw [if_neg callable, List.filter_eq_nil_iff]
    intro member added isCallable
    rw [membersOf, if_neg callable] at added
    split at added
    · rw [Member.isCallable, (Declaration.codeless_of_mem_fields added).1] at isCallable
      cases isCallable
    · cases added

/-- Every declaration of a method or constructor makes one member. -/
theorem callables_entity :
    (type.entity file).callables = (type.declarations.filter Declaration.isCallable).map
      (Declaration.callable (type.scope file) type.isInterface) := by
  have noField : type.components.filter (·.isCallable) = [] := by
    refine List.filter_eq_nil_iff.mpr fun member isComponent isCallable => ?_
    rw [Member.isCallable, (codeless_of_mem_components isComponent).1] at isCallable
    cases isCallable
  rw [Entity.callables, entity, List.filter_append, noField, List.nil_append, List.filter_flatMap]
  simp only [filter_isCallable_membersOf]
  induction type.declarations with
  | nil => rfl
  | cons declaration declarations ih =>
    rw [List.flatMap_cons, ih]
    by_cases callable : Declaration.isCallable declaration
    · rw [if_pos callable, List.filter_cons_of_pos callable, List.map_cons, List.singleton_append]
    · rw [if_neg callable, List.filter_cons_of_neg callable, List.nil_append]

theorem codeless_of_mem_fields_entity {member : Member} (isField : member ∈ (type.entity file).fields) :
    member.Codeless := by
  obtain ⟨inside, kind⟩ := List.mem_filter.mp isField
  rcases codeless_or_callable inside with codeless | ⟨declaration, _, _, rfl⟩
  · exact codeless
  · have callable := Declaration.isCallable_callable (type.scope file) type.isInterface declaration
    rw [Member.isCallable, bne, kind] at callable
    cases callable

end DeclaredType

/-- A body leaves its marks on a member: every node adds what it makes by itself, in the order of nodes. -/
structure BodyScope.Scans (scope : BodyScope) (body : Node) (member : Member) : Prop where
  hasBody : member.body.isSome
  references : member.references = body.referencesIn scope
  counts : ∀ kind : ReferenceKind, kind ≠ .typeUse →
    member.references.countP (·.kind == kind) = body.nodes.countP (·.tree.makes kind)
  typeUses : member.references.filter (·.kind == .typeUse) =
    body.nodes.flatMap fun node => scope.usesOf node.tree.writtenTypes
  complexity : member.complexity = 1 + body.nodes.countP (·.tree.divides)

theorem Declaration.scans_callable (scope : TypeScope) (inInterface : Bool) {declaration body : Node}
    (found : declaration.child? .body = some body) :
    let member := callable scope inInterface declaration.tree
    (BodyScope.ofBody scope member.parameters body.tree).Scans body member := by
  intro member
  have found : declaration.tree.child? .body = some body.tree := by
    rw [← Node.map_tree_child?, found, Option.map_some]
  have read : member = _ := callable_of_body scope inInterface found
  have parameters : member.parameters = (signature inInterface declaration.tree).parameters := by rw [read]
  rw [parameters]
  let inside := BodyScope.ofBody scope (signature inInterface declaration.tree).parameters body.tree
  have references : member.references = body.referencesIn inside := by
    rw [read, ← Node.references_findings inside declaration.tree.kind]
  have listed : member.references = body.tree.preorder.flatMap inside.referencesAt := by
    rw [references, Node.referencesIn, ← Node.map_tree_nodes, List.flatMap_map]
  have branches := inside.branches_findings declaration.tree.kind body.tree
  refine ⟨by rw [read, Option.isSome_some], references, fun kind single => ?_, ?_, ?_⟩
  · rw [listed, inside.countP_references single, ← Node.map_tree_nodes, List.countP_map]
    rfl
  · rw [listed, inside.filter_typeUse_references, ← Node.map_tree_nodes, List.flatMap_map]
  · rw [← Node.map_tree_nodes, List.countP_map] at branches
    rw [read]
    exact congrArg (1 + ·) branches

namespace PlacedType

def callables (placed : PlacedType) : List Node :=
  placed.node.declarations.filter (Declaration.isCallable ·.tree)

/-- The member that a declaration of a method or constructor makes. -/
def callable (file : FileContext) (placed : PlacedType) (declaration : Node) : Member :=
  Declaration.callable (placed.type.scope file) placed.type.isInterface declaration.tree

/-- How the code of a type is attributed: each body to the member of its declaration, all else to the entity. -/
structure Scans (file : FileContext) (placed : PlacedType) : Prop where
  callables : (placed.type.entity file).callables = placed.callables.map (placed.callable file)
  bodies : ∀ declaration ∈ placed.callables, ∀ body, declaration.body? = some body →
    let member := placed.callable file declaration
    (BodyScope.ofBody (placed.type.scope file) member.parameters body.tree).Scans body member
  bodiless : ∀ declaration ∈ placed.callables, declaration.body? = none →
    (placed.callable file declaration).Codeless
  fields : ∀ field ∈ (placed.type.entity file).fields, field.Codeless
  rest : (placed.type.entity file).references =
    placed.looseCode.flatMap (Node.referencesIn (BodyScope.outside (placed.type.scope file)))

theorem scans (file : FileContext) (placed : PlacedType) : placed.Scans file := by
  have declarations := Node.map_tree_declarations placed.tree_eq
  have body_eq {declaration : Node} (listed : declaration ∈ placed.callables) :
      declaration.body? = declaration.child? .body := by
    rw [Node.body?, if_pos (List.mem_filter.mp listed).2]
  constructor
  case callables =>
    rw [DeclaredType.callables_entity, ← declarations, List.filter_map, List.map_map]
    rfl
  case bodies =>
    intro declaration listed body found
    exact Declaration.scans_callable _ _ ((body_eq listed).symm.trans found)
  case bodiless =>
    intro declaration listed missing
    have missing : declaration.tree.child? .body = none := by
      rw [← Node.map_tree_child?, ← body_eq listed, missing, Option.map_none]
    exact Declaration.codeless_of_bodiless missing
  case fields => exact fun field isField => placed.type.codeless_of_mem_fields_entity file isField
  case rest =>
    have perDeclaration : (placed.type.entity file).references =
        placed.type.declarations.flatMap (DeclaredType.referencesOf (placed.type.scope file)) := rfl
    rw [perDeclaration, ← declarations, List.flatMap_map, looseCode, List.flatMap_assoc]
    exact List.flatMap_congr fun declaration _ => declaration.referencesOf_tree _

/-- The nodes that are scanned for a type and its members. -/
def scanned (placed : PlacedType) : List Node :=
  placed.code.flatMap Node.nodes

end PlacedType

/-- The types that a file declares. -/
def Node.declaredTypes (unit : Node) : List PlacedType :=
  unit.children.flatMap (Node.types none)

theorem Node.map_type_declaredTypes (unit : Node) :
    unit.declaredTypes.map (·.type) = unit.tree.children.flatMap (DeclaredType.declaredBy none) := by
  rw [declaredTypes, List.map_flatMap, ← map_tree_children, List.flatMap_map]
  exact List.flatMap_congr fun child _ => child.map_type_types none

theorem Node.holds_code_declaredTypes (unit : Node) :
    unit.Holds (unit.declaredTypes.flatMap PlacedType.code) := by
  rw [declaredTypes, List.flatMap_assoc]
  exact (Holds.children unit).flatMap fun child _ => child.holds_code_types none

/-- Every node of a body is scanned for the member that the body belongs to, and no node of a file is scanned
for two members or two entities. -/
theorem code_is_scanned_once (path : String) (unit : Tree) :
    let file := FileContext.ofUnit path unit
    let types := (Node.top unit).declaredTypes
    let scanned := types.flatMap PlacedType.scanned
    extract path unit = types.map (·.type.entity file) ∧ (∀ placed ∈ types, placed.Scans file) ∧
      (scanned.map Node.address).Nodup ∧ scanned ⊆ (Node.top unit).nodes := by
  intro file types scanned
  have holds := (Node.top unit).holds_code_declaredTypes
  have pieces : scanned = (types.flatMap PlacedType.code).flatMap Node.nodes := List.flatMap_assoc.symm
  refine ⟨?_, fun placed _ => placed.scans file, ?_, ?_⟩
  · have sameTypes : types.map (·.type) = unit.children.flatMap (DeclaredType.declaredBy none) :=
      Node.map_type_declaredTypes (Node.top unit)
    rw [extract, ← sameTypes, List.map_map]
    rfl
  · rw [pieces, List.map_flatMap]
    exact holds.addresses_nodup
  · rw [pieces]
    exact holds.nodes_subset

/-- An initial value, a nested class, and a class without a name in a body. Another body declares a variable, casts
and catches. -/
def nestingSource : String :=
  "class A \x7b A a = f(); class B \x7b B() \x7b f(); \x7d \x7d" ++
    " A f() \x7b return new A() \x7b A f() \x7b if (b) a.a = a; \x7d \x7d; \x7d" ++
    " Object g(Object o) \x7b try \x7b List<A> all = h((A) o); return all; \x7d" ++
    " catch (Bad | Worse e) \x7b return e; \x7d \x7d \x7d"

/-- What is attributed to an entity, and then to each of its methods and constructors. -/
def attributed (entity : Entity) : List (List (ReferenceKind × Option String)) :=
  (entity.references :: entity.callables.map (·.references)).map
    (·.map fun reference => (reference.kind, reference.target))

theorem code_is_scanned_once_nesting :
    ∃ unit, parse? nestingSource = some unit ∧
      ((extract "A.java" unit).map attributed =
        [[[(.methodCall, some "A")], [(.instantiation, some "A"), (.fieldAccess, some "A")],
          [(.typeUse, some "List"), (.typeUse, some "A"), (.methodCall, some "A"), (.typeUse, some "A"),
            (.typeUse, some "Bad"), (.typeUse, some "Worse")]],
          [[], [(.methodCall, some "B")]]] ∧
        (extract "A.java" unit).map (·.callables.map (·.complexity)) = [[2, 2], [1]]) ∧
      (∀ placed ∈ (Node.top unit).declaredTypes, placed.Scans (FileContext.ofUnit "A.java" unit)) ∧
      (((Node.top unit).declaredTypes.flatMap PlacedType.scanned).map Node.address).Nodup := by
  have evaluated : ∃ unit ∈ (parse? nestingSource).toList,
      (extract "A.java" unit).map attributed =
        [[[(.methodCall, some "A")], [(.instantiation, some "A"), (.fieldAccess, some "A")],
          [(.typeUse, some "List"), (.typeUse, some "A"), (.methodCall, some "A"), (.typeUse, some "A"),
            (.typeUse, some "Bad"), (.typeUse, some "Worse")]],
          [[], [(.methodCall, some "B")]]] ∧
        (extract "A.java" unit).map (·.callables.map (·.complexity)) = [[2, 2], [1]] := by
    decide +kernel
  obtain ⟨unit, parsed, found⟩ := evaluated
  obtain ⟨_, scans, once, _⟩ := code_is_scanned_once "A.java" unit
  exact ⟨unit, Option.mem_toList.mp parsed, found, scans, once⟩

end Java

end CodeSurvey
