import CodeSurvey.Proofs.Java.Shape

namespace CodeSurvey

/-- A member in whose declaration no code is looked for. -/
structure Member.Codeless (member : Member) : Prop where
  body : member.body = none
  references : member.references = []
  accessedFields : member.accessedFields = []

namespace Java

namespace Declaration

variable {scope : TypeScope} {inInterface : Bool} {declaration : Tree}

theorem codeless_of_mem_fields {member : Member} (declared : member ∈ fields inInterface declaration) :
    member.kind = .field ∧ member.Codeless := by
  unfold fields at declared
  dsimp only at declared
  split at declared
  · obtain ⟨_, _, rfl⟩ := List.mem_map.mp declared
    exact ⟨rfl, rfl, rfl, rfl⟩
  · cases declared

theorem signature_codeless (inInterface : Bool) (declaration : Tree) :
    (signature inInterface declaration).isCallable ∧ (signature inInterface declaration).Codeless := by
  unfold signature
  dsimp only
  split
  · exact ⟨rfl, rfl, rfl, rfl⟩
  · exact ⟨rfl, rfl, rfl, rfl⟩

theorem callable_of_body (scope : TypeScope) (inInterface : Bool) {body : Tree}
    (found : declaration.child? .body = some body) :
    callable scope inInterface declaration =
      let member := signature inInterface declaration
      let found := (BodyScope.ofBody scope member.parameters body).findings declaration.kind body
      { member with
        body := some (Text.normalizeBody body.textWithoutComments)
        complexity := 1 + found.branches
        references := found.references
        accessedFields := found.accessedFields.toList } := by
  unfold callable
  rw [found]

theorem callable_of_bodiless (scope : TypeScope) (inInterface : Bool)
    (missing : declaration.child? .body = none) :
    ∃ isAbstract, callable scope inInterface declaration =
      { signature inInterface declaration with isAbstract } := by
  unfold callable
  rw [missing]
  exact ⟨_, rfl⟩

theorem isCallable_callable (scope : TypeScope) (inInterface : Bool) (declaration : Tree) :
    (callable scope inInterface declaration).isCallable := by
  have plain := (signature_codeless inInterface declaration).1
  cases found : declaration.child? .body with
  | some body =>
    rw [callable_of_body scope inInterface found]
    exact plain
  | none =>
    obtain ⟨_, same⟩ := callable_of_bodiless scope inInterface found
    rw [same]
    exact plain

theorem codeless_of_bodiless (missing : declaration.child? .body = none) :
    (callable scope inInterface declaration).Codeless := by
  obtain ⟨_, same⟩ := callable_of_bodiless scope inInterface missing
  obtain ⟨_, body, references, accessedFields⟩ := signature_codeless inInterface declaration
  rw [same]
  exact ⟨body, references, accessedFields⟩

end Declaration

namespace DeclaredType

/-- The declaration of a type among some trees. -/
def IsIn (type : DeclaredType) (trees : List Tree) : Prop :=
  type.tree ∈ trees ∧ ∃ outer, ofTree? outer type.tree = some type

theorem IsIn.mono {type : DeclaredType} {trees others : List Tree} (isIn : type.IsIn trees)
    (included : trees ⊆ others) : type.IsIn others :=
  ⟨included isIn.1, isIn.2⟩

theorem tree_of_ofTree? {outer : Option String} {tree : Tree} {type : DeclaredType}
    (declares : ofTree? outer tree = some type) : type.tree = tree := by
  unfold ofTree? at declares
  split at declares
  · cases declares
    rfl
  · cases declares

theorem kind_of_ofTree? {outer : Option String} {tree : Tree} {type : DeclaredType}
    (declares : ofTree? outer tree = some type) : (tree.kind, type.kind) ∈ typeDeclarations := by
  unfold ofTree? at declares
  split at declares
  · next isType _ =>
    cases declares
    exact entityKind?_eq_some_iff.mp isType
  · cases declares

theorem declaredInBody_eq (outer : String) (trees : List Tree) :
    declaredInBody outer trees =
      (trees.find? (·.role == .body)).toList.flatMap (declaredByMembers outer) := by
  induction trees with
  | nil => rfl
  | cons tree trees ih =>
    rw [declaredInBody, List.find?_cons]
    by_cases isBody : tree.role = .body
    · rw [if_pos isBody, beq_iff_eq.mpr isBody]
      exact (List.flatMap_singleton _ _).symm
    · rw [if_neg isBody, beq_eq_false_iff_ne.mpr isBody, ih]

theorem declaredByEach_eq (outer : String) (trees : List Tree) :
    declaredByEach outer trees = trees.flatMap (declaredBy (some outer)) := by
  induction trees with
  | nil => rfl
  | cons tree trees ih => rw [declaredByEach, ih, List.flatMap_cons]

theorem declaredByInner_eq (outer : String) (tree : Tree) :
    declaredByInner outer tree = tree.children.flatMap (declaredBy (some outer)) := by
  cases tree with
  | leaf => rfl
  | node => exact declaredByEach_eq outer _

theorem declaredByAll_eq (outer : String) (trees : List Tree) :
    declaredByAll outer trees = trees.flatMap fun tree =>
      if tree.kind = .enumBodyDeclarations then tree.children.flatMap (declaredBy (some outer))
      else declaredBy (some outer) tree := by
  induction trees with
  | nil => rfl
  | cons tree trees ih => rw [declaredByAll, ih, List.flatMap_cons, declaredByInner_eq]

/-- A mere token declares no type. -/
theorem declaredBy_of_token {tree : Tree} (token : ¬tree.isNamed) (outer : Option String) :
    declaredBy outer tree = [] := by
  have kind : tree.kind = .token := by simpa [Tree.isNamed, Kind.isNamed] using token
  cases tree with
  | leaf => rfl
  | node =>
    rw [declaredBy, ofTree?, kind]
    rfl

theorem flatMap_namedChildren {f : Tree → List DeclaredType} (silent : ∀ tree, ¬tree.isNamed → f tree = [])
    (tree : Tree) : tree.namedChildren.flatMap f = tree.children.flatMap f := by
  rw [Tree.namedChildren]
  induction tree.children with
  | nil => rfl
  | cons child children ih =>
    by_cases named : child.isNamed
    · rw [List.filter_cons_of_pos named, List.flatMap_cons, List.flatMap_cons, ih]
    · rw [List.filter_cons_of_neg named, List.flatMap_cons, silent child named, List.nil_append, ih]

theorem declaredByMembers_eq (outer : String) (body : Tree) :
    declaredByMembers outer body = (body.namedChildren.flatMap fun tree =>
      if tree.kind == .enumBodyDeclarations then tree.namedChildren else [tree]).flatMap
        (declaredBy (some outer)) := by
  have tokens (tree : Tree) (token : ¬tree.isNamed) := declaredBy_of_token token (some outer)
  have all : declaredByMembers outer body = declaredByAll outer body.children := by cases body <;> rfl
  rw [all, declaredByAll_eq, List.flatMap_assoc, flatMap_namedChildren]
  · refine List.flatMap_congr fun tree _ => ?_
    by_cases group : tree.kind = .enumBodyDeclarations
    · rw [if_pos group, if_pos (beq_iff_eq.mpr group), flatMap_namedChildren tokens]
    · rw [if_neg group, if_neg (by simpa using group), List.flatMap_singleton]
  · intro tree token
    have group : ¬(tree.kind == .enumBodyDeclarations) := by
      intro same
      rw [Tree.isNamed, beq_iff_eq.mp same] at token
      exact token rfl
    rw [if_neg group, List.flatMap_singleton, tokens tree token]

/-- The types nested in a type are those that the declarations of its body declare. -/
theorem declaredBy_eq (outer : Option String) (tree : Tree) :
    declaredBy outer tree = (ofTree? outer tree).toList.flatMap fun type =>
      type :: type.declarations.flatMap (declaredBy (some type.localName)) := by
  cases tree with
  | leaf =>
    have nameless : ofTree? outer (.leaf ‹_› ‹_› ‹_›) = none := by
      unfold ofTree?
      split
      · next found => cases found
      · rfl
    rw [nameless]
    rfl
  | node role kind children =>
    rw [declaredBy]
    cases declares : ofTree? outer (.node role kind children) with
    | none => rfl
    | some type =>
      dsimp only
      rw [Option.toList_some, List.flatMap_singleton, declaredInBody_eq, declarations,
        tree_of_ofTree? declares, Tree.child?, Tree.children]
      cases children.find? (·.role == .body) with
      | none => rfl
      | some body =>
        rw [Option.toList_some, List.flatMap_singleton, declaredByMembers_eq]

/-- A declaration in the body of a type. In an enum, those after the constants stand one level deeper. -/
inductive Declares (type : DeclaredType) : Tree → Prop
  | inBody {body declaration} (found : type.tree.child? .body = some body)
      (member : declaration ∈ body.children) : Declares type declaration
  | afterConstants {body group declaration} (found : type.tree.child? .body = some body)
      (isGroup : group ∈ body.children) (kind : group.kind = .enumBodyDeclarations)
      (member : declaration ∈ group.children) : Declares type declaration

namespace Declares

variable {type : DeclaredType} {declaration : Tree}

theorem mem_declarations {kinds : List Kind} (declares : type.Declares declaration)
    (listed : declaration.kind ∈ kinds)
    (plain : ∀ kind ∈ kinds, kind.isNamed ∧ kind ≠ .enumBodyDeclarations) :
    declaration ∈ type.declarations := by
  obtain ⟨named, noGroup⟩ := plain _ listed
  unfold declarations
  cases declares with
  | inBody found member =>
    rw [found]
    refine List.mem_flatMap.mpr ⟨declaration, List.mem_filter.mpr ⟨member, named⟩, ?_⟩
    rw [if_neg (by simpa using noGroup)]
    exact List.mem_singleton_self _
  | afterConstants found isGroup kind member =>
    rw [found]
    refine List.mem_flatMap.mpr ⟨_, List.mem_filter.mpr ⟨isGroup, by rw [Tree.isNamed, kind]; rfl⟩, ?_⟩
    rw [if_pos (by simpa using kind)]
    exact List.mem_filter.mpr ⟨member, named⟩

theorem mem_preorder (declares : type.Declares declaration) : declaration ∈ type.tree.preorder := by
  cases declares with
  | inBody found member =>
    exact Tree.mem_preorder_of_child (Tree.mem_children_of_child? found)
      (Tree.mem_preorder_of_child member (Tree.self_mem_preorder _))
  | afterConstants found isGroup _ member =>
    exact Tree.mem_preorder_of_child (Tree.mem_children_of_child? found)
      (Tree.mem_preorder_of_child isGroup (Tree.mem_preorder_of_child member (Tree.self_mem_preorder _)))

theorem sizeOf_lt (declares : type.Declares declaration) : sizeOf declaration < sizeOf type.tree := by
  cases declares with
  | inBody found member =>
    have outer := Tree.sizeOf_lt_of_mem_children (Tree.mem_children_of_child? found)
    have inner := Tree.sizeOf_lt_of_mem_children member
    omega
  | afterConstants found isGroup _ member =>
    have outer := Tree.sizeOf_lt_of_mem_children (Tree.mem_children_of_child? found)
    have middle := Tree.sizeOf_lt_of_mem_children isGroup
    have inner := Tree.sizeOf_lt_of_mem_children member
    omega

end Declares

theorem declares_of_mem_declarations {type : DeclaredType} {declaration : Tree}
    (listed : declaration ∈ type.declarations) : type.Declares declaration := by
  unfold declarations at listed
  split at listed
  · next body found =>
    obtain ⟨tree, inBody, listed⟩ := List.mem_flatMap.mp listed
    have inBody := (List.mem_filter.mp inBody).1
    split at listed
    · next group => exact .afterConstants found inBody (beq_iff_eq.mp group) (List.mem_filter.mp listed).1
    · cases List.mem_singleton.mp listed
      exact .inBody found inBody
  · cases listed

/-- Every declared type is a node of the tree. -/
theorem isIn_of_declaredBy {type : DeclaredType} {tree : Tree} {outer : Option String}
    (member : type ∈ declaredBy outer tree) : type.IsIn tree.preorder := by
  rw [declaredBy_eq] at member
  obtain ⟨declared, declares, member⟩ := List.mem_flatMap.mp member
  have declares := Option.mem_toList.mp declares
  have same := tree_of_ofTree? declares
  rcases List.mem_cons.mp member with rfl | nested
  · exact ⟨same ▸ Tree.self_mem_preorder _, outer, same ▸ declares⟩
  · obtain ⟨declaration, listed, member⟩ := List.mem_flatMap.mp nested
    have inBody := declares_of_mem_declarations listed
    have smaller : sizeOf declaration < sizeOf tree := same ▸ inBody.sizeOf_lt
    have below : declaration ∈ tree.preorder := same ▸ inBody.mem_preorder
    exact (isIn_of_declaredBy member).mono fun inner inside => Tree.preorder_trans inside below
termination_by sizeOf tree

theorem isIn_of_declared {type : DeclaredType} {unit : Tree}
    (declared : type ∈ unit.children.flatMap (declaredBy none)) : type.IsIn unit.preorder := by
  obtain ⟨child, isChild, declaredBy⟩ := List.mem_flatMap.mp declared
  exact (isIn_of_declaredBy declaredBy).mono fun tree => Tree.mem_preorder_of_child isChild

/-- A declared type bears a name that the file spells out. -/
theorem isName_of_isIn {type : DeclaredType} {unit : Tree} (wellDeclared : WellDeclared unit)
    (isIn : type.IsIn unit.preorder) : IsName type.name := by
  obtain ⟨inside, outer, declares⟩ := isIn
  unfold ofTree? at declares
  split at declares
  · next kind name isType found =>
    cases tree : type.tree with
    | leaf =>
      rw [tree] at found
      cases found
    | node role kind children =>
      rw [tree] at inside isType found declares
      obtain ⟨name', found', isName⟩ := wellDeclared.typeNamed _ _ _ inside
        (isSome_entityKind?_iff.mp (Option.isSome_of_mem isType))
      cases found.symm.trans found'
      cases declares
      exact isName
  · cases declares

theorem codeless_of_mem_components {type : DeclaredType} {member : Member}
    (isComponent : member ∈ type.components) : member.kind = .field ∧ member.Codeless := by
  unfold components at isComponent
  split at isComponent
  · obtain ⟨_, _, rfl⟩ := List.mem_map.mp isComponent
    exact ⟨rfl, rfl, rfl, rfl⟩
  · cases isComponent

theorem membersOf_of_isCallable {declaration : Tree} (callable : Declaration.isCallable declaration)
    (scope : TypeScope) (inInterface : Bool) :
    membersOf scope inInterface declaration = [Declaration.callable scope inInterface declaration] := by
  have field : ¬Declaration.isField declaration := by
    rw [Declaration.isCallable, Declaration.isConstructor] at callable
    rw [Declaration.isField]
    cases kind : declaration.kind <;> simp_all
  rw [membersOf, if_neg field, if_pos callable]

/-- A member in which code was found has been read off a body. -/
theorem codeless_or_callable {type : DeclaredType} {file : FileContext} {member : Member}
    (inside : member ∈ (type.entity file).members) :
    member.Codeless ∨ ∃ declaration body, declaration.child? .body = some body ∧
      member = Declaration.callable (type.scope file) type.isInterface declaration := by
  rcases List.mem_append.mp inside with isComponent | inBody
  · exact Or.inl (codeless_of_mem_components isComponent).2
  · obtain ⟨declaration, _, added⟩ := List.mem_flatMap.mp inBody
    unfold membersOf at added
    split at added
    · exact Or.inl (Declaration.codeless_of_mem_fields added).2
    · split at added
      · cases List.mem_singleton.mp added
        cases found : declaration.child? .body with
        | none => exact Or.inl (Declaration.codeless_of_bodiless found)
        | some body => exact Or.inr ⟨declaration, body, found, rfl⟩
      · cases added

end DeclaredType

end Java

end CodeSurvey
