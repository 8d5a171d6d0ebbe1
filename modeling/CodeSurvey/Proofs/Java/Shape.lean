import CodeSurvey.Java.Extraction
import CodeSurvey.Proofs.Java.Derivation

namespace CodeSurvey

namespace Java

/-- The declarations of types, each with the kind of entity that it makes. -/
def typeDeclarations : List (Kind × EntityKind) :=
  [(.classDeclaration, .classType), (.interfaceDeclaration, .interfaceType),
    (.annotationTypeDeclaration, .interfaceType), (.enumDeclaration, .enumType),
    (.recordDeclaration, .recordType)]

def Kind.DeclaresType (kind : Kind) : Prop :=
  kind ∈ typeDeclarations.map (·.1)
  deriving Decidable

theorem entityKind?_eq_some_iff {kind : Kind} {entityKind : EntityKind} :
    entityKind? kind = some entityKind ↔ (kind, entityKind) ∈ typeDeclarations := by
  constructor
  · intro isType
    unfold entityKind? at isType
    split at isType <;> cases isType <;> decide
  · intro listed
    simp only [typeDeclarations, List.mem_cons, List.not_mem_nil, or_false, Prod.mk.injEq] at listed
    rcases listed with ⟨rfl, rfl⟩ | ⟨rfl, rfl⟩ | ⟨rfl, rfl⟩ | ⟨rfl, rfl⟩ | ⟨rfl, rfl⟩ <;> rfl

theorem isSome_entityKind?_iff {kind : Kind} : (entityKind? kind).isSome ↔ kind.DeclaresType := by
  simp [Option.isSome_iff_exists, entityKind?_eq_some_iff, Kind.DeclaresType]

namespace Grammar

/-- A form of type declarations: modifiers, a keyword, a name. -/
def namesType : Rule → Bool
  | .seq (.opt (.sym .modifiers) :: .word _ :: .playing .name (.identifier .identifier) :: _) => true
  | _ => false

/-- A form of field declarations: modifiers, a type, declarators. -/
def declaresFields : Rule → Bool
  | .seq [.opt (.sym .modifiers), .playing .type (.sym .unannotatedType), .sym .declarators, .word _] => true
  | _ => false

def namesVariable : Rule → Bool
  | .seq (.sym .declaratorId :: _) => true
  | _ => false

/-- The shape that the form of a declaration of this kind must have. -/
def requiredShape (kind : Kind) : Option (Rule → Bool) :=
  if (entityKind? kind).isSome then some namesType
  else if kind == .fieldDeclaration || kind == .constantDeclaration then some declaresFields
  else if kind == .variableDeclarator then some namesVariable
  else none

def shaped : Production Symbol → Bool
  | .whole kind form => (requiredShape kind).all (· form)
  | .step kind _ _ => (requiredShape kind).isNone

theorem productions_operators (level : Nat) : (operators level).productions = [] := by
  unfold operators
  split <;> rfl

theorem shaped_binary (level : Nat) (arrow : Bool) : (binary level arrow).productions.all shaped := by
  unfold binary
  split
  · have none := productions_operators level
    split <;> simp only [Form.productions, Form.productionsOf, none] <;> rfl
  · rfl

theorem shaped_grammar (name : Symbol) : ∀ production ∈ (grammar name).productions, shaped production := by
  rw [← List.all_eq_true]
  cases name with
  | binary level arrow => exact shaped_binary level arrow
  | expression arrow => rfl
  | operand arrow => cases arrow <;> rfl
  | cast arrow => rfl
  | _ => rfl

theorem shaped_topLevel : ∀ production ∈ topLevel.productions, shaped production := by
  rw [← List.all_eq_true]
  rfl

end Grammar

/-- If a tree plays the part of a declarator, it is one. -/
def Tree.DeclaratorInPart (tree : Tree) : Prop :=
  tree.role = .declarator → tree.kind = .variableDeclarator

theorem Tree.declaratorInPart_of_role {tree : Tree} {role : Role} (plays : tree.role = role)
    (other : role ≠ .declarator) : tree.DeclaratorInPart :=
  fun declarator => absurd (plays.symm.trans declarator) other

namespace Derives

theorem role_of_opt_modifiers {taken : List Token} {pieces : List Piece}
    (derived : Derives grammar (.opt (.sym .modifiers)) taken pieces) :
    ∀ tree ∈ pieces.map (·.tree), tree.role = .none := by
  cases derived with
  | absent => simp
  | present inner =>
    obtain ⟨piece, children, rfl, made⟩ := of_node inner.of_sym
    simp [made, Tree.role]

theorem declaratorInPart_of_declarators {taken : List Token} {pieces : List Piece}
    (derived : Derives grammar (.sym .declarators) taken pieces) :
    ∀ piece ∈ pieces, piece.tree.DeclaratorInPart := by
  have one : ∀ taken pieces, Derives grammar (.playing .declarator (.sym .variableDeclarator)) taken pieces →
      ∀ piece ∈ pieces, piece.tree.DeclaratorInPart := by
    intro taken pieces played
    obtain ⟨_, rfl, inner⟩ := played.of_playing
    obtain ⟨piece, children, rfl, made⟩ := of_node inner.of_sym
    rw [List.map_singleton, List.forall_mem_singleton, Piece.withRole, made]
    exact fun _ => rfl
  have further : ∀ taken pieces,
      Derives grammar (.seq [.word ",", .playing .declarator (.sym .variableDeclarator)]) taken pieces →
      ∀ piece ∈ pieces, piece.tree.DeclaratorInPart := by
    intro taken pieces both
    obtain ⟨_, _, _, _, rfl, rfl, comma, played⟩ := both.of_seq_cons
    obtain ⟨_, _, _, _, rfl, rfl, declarator, rest⟩ := played.of_seq_cons
    cases comma
    cases rest
    rw [List.append_nil]
    exact List.forall_mem_cons.mpr ⟨nofun, one _ _ declarator⟩
  obtain ⟨_, _, _, _, rfl, rfl, first, more⟩ := derived.of_sym.of_seq_cons
  obtain ⟨_, _, _, _, rfl, rfl, many, rest⟩ := more.of_seq_cons
  cases rest
  rw [List.append_nil]
  exact List.forall_mem_append.mpr ⟨one _ _ first, many.forall_of_many further⟩

theorem parts_of_fields {keyword : String} {taken : List Token} {pieces : List Piece}
    (derived : Derives grammar (.seq [.opt (.sym .modifiers), .playing .type (.sym .unannotatedType),
      .sym .declarators, .word keyword]) taken pieces) :
    (∃ piece ∈ pieces, piece.tree.role = .type) ∧ ∀ piece ∈ pieces, piece.tree.DeclaratorInPart := by
  obtain ⟨_, _, _, _, rfl, rfl, optional, typed⟩ := derived.of_seq_cons
  obtain ⟨_, _, _, _, rfl, rfl, played, listed⟩ := typed.of_seq_cons
  obtain ⟨_, _, _, _, rfl, rfl, declarators, ended⟩ := listed.of_seq_cons
  obtain ⟨_, _, _, _, rfl, rfl, semicolon, nothing⟩ := ended.of_seq_cons
  obtain ⟨_, rfl, type⟩ := played.of_playing
  obtain ⟨piece, rfl⟩ := type.of_sym.of_grow
  cases semicolon
  cases nothing
  have plays : (piece.withRole .type).tree.role = .type := Tree.role_withRole .type piece.tree
  refine ⟨⟨piece.withRole .type, by simp, plays⟩, ?_⟩
  simp only [List.forall_mem_append, List.map_singleton, List.forall_mem_singleton, List.append_nil]
  refine ⟨fun piece member => ?_, Tree.declaratorInPart_of_role plays (by decide),
    declarators.declaratorInPart_of_declarators, nofun⟩
  have plain := optional.role_of_opt_modifiers _ (List.mem_map_of_mem member)
  exact Tree.declaratorInPart_of_role plain (by decide)

end Derives

namespace Makes

variable {production : Production Symbol} {kind : Kind} {children : List Tree}

theorem exists_form {shape : Grammar.Rule → Bool} (makes : Makes grammar production kind children)
    (shaped : Grammar.shaped production) (required : Grammar.requiredShape kind = some shape) :
    ∃ form, shape form ∧ Makes grammar (.whole kind form) kind children := by
  cases makes with
  | whole inner sound =>
    rw [Grammar.shaped, required] at shaped
    exact ⟨_, shaped, .whole inner sound⟩
  | step =>
    rw [Grammar.shaped, required] at shaped
    cases shaped

/-- The name of a type is an identifier. -/
theorem name_of_type (makes : Makes grammar production kind children) (shaped : Grammar.shaped production)
    (isType : kind.DeclaresType) :
    ∃ content, (children.filter (·.role == .name)).head? = some (.leaf .name .identifier content) ∧
      IsName content.text := by
  have required : Grammar.requiredShape kind = some Grammar.namesType :=
    if_pos (isSome_entityKind?_iff.mpr isType)
  obtain ⟨form, names, whole⟩ := makes.exists_form shaped required
  obtain ⟨taken, pieces, derived, sound, inRole⟩ := whole.exists_pieces
  unfold Grammar.namesType at names
  split at names
  · obtain ⟨_, _, modifiers, _, rfl, rfl, optional, derived⟩ := derived.of_seq_cons
    obtain ⟨_, _, _, _, rfl, rfl, keyword, derived⟩ := derived.of_seq_cons
    obtain ⟨_, _, _, _, rfl, rfl, named, derived⟩ := derived.of_seq_cons
    obtain ⟨_, rfl, name⟩ := named.of_playing
    have plain := filter_role_of_none (by decide : Role.name ≠ .none) optional.role_of_opt_modifiers
    cases keyword with
    | word =>
      cases name with
      | @identifier _ token matched =>
        have isName := (sound token (by simp)).name matched
        refine ⟨token.leaf, ?_, isName⟩
        rw [inRole .name (by decide), List.map_append, List.filter_append, plain]
        rfl
  · cases names

/-- A field declaration has a type, and what it declares are declarators. -/
theorem type_of_fields (makes : Makes grammar production kind children) (shaped : Grammar.shaped production)
    (isField : kind = .fieldDeclaration ∨ kind = .constantDeclaration) :
    (∃ type, (children.filter (·.role == .type)).head? = some type) ∧
      ∀ declarator ∈ children.filter (·.role == .declarator), declarator.kind = .variableDeclarator := by
  have required : Grammar.requiredShape kind = some Grammar.declaresFields := by
    rcases isField with rfl | rfl <;> rfl
  obtain ⟨form, declares, whole⟩ := makes.exists_form shaped required
  obtain ⟨taken, pieces, derived, _, inRole⟩ := whole.exists_pieces
  unfold Grammar.declaresFields at declares
  split at declares
  · obtain ⟨⟨piece, made, plays⟩, inPart⟩ := derived.parts_of_fields
    rw [inRole .type (by decide), inRole .declarator (by decide)]
    refine ⟨exists_head?_filter_role (List.mem_map_of_mem made) plays, fun declarator member => ?_⟩
    obtain ⟨place, playing⟩ := List.mem_filter.mp member
    obtain ⟨piece, made, rfl⟩ := List.mem_map.mp place
    exact inPart piece made (beq_iff_eq.mp playing)
  · cases declares

/-- A declarator names its variable. -/
theorem name_of_declarator (makes : Makes grammar production kind children) (shaped : Grammar.shaped production)
    (isDeclarator : kind = .variableDeclarator) :
    ∃ name, (children.filter (·.role == .name)).head? = some name := by
  obtain ⟨form, names, whole⟩ := makes.exists_form shaped (by rw [isDeclarator]; rfl)
  obtain ⟨taken, pieces, derived, _, inRole⟩ := whole.exists_pieces
  unfold Grammar.namesVariable at names
  split at names
  · obtain ⟨_, _, _, _, rfl, rfl, identified, _⟩ := derived.of_seq_cons
    obtain ⟨_, _, _, _, rfl, rfl, named, _⟩ := identified.of_sym.of_seq_cons
    obtain ⟨inner, rfl, name⟩ := named.of_playing
    rw [inRole .name (by decide)]
    have single : ∃ piece, inner = [piece] := by
      cases name with
      | alt member chosen =>
        rcases List.mem_pair.mp member with rfl | rfl <;> cases chosen <;> exact ⟨_, rfl⟩
    obtain ⟨piece, rfl⟩ := single
    refine exists_head?_filter_role ?_ (Tree.role_withRole .name piece.tree)
    simp [Piece.withRole]
  · cases names

end Makes

/-- Everything below the root of a file comes from a production of the grammar. -/
theorem follows_of_parse? {source : String} {unit : Tree} (parsed : parse? source = some unit) :
    ∃ children, unit = .node .none .compilationUnit children ∧
      ∀ child ∈ children, child.Follows grammar (Grammar.shaped ·) := by
  unfold parse? at parsed
  obtain ⟨soundTokens, comments⟩ := Token.ofSource_sound source
  generalize Token.ofSource source = scanned at parsed soundTokens comments
  obtain ⟨tokens, last⟩ := scanned
  dsimp only at parsed soundTokens comments
  split at parsed
  · next pieces ran =>
    cases parsed
    obtain ⟨taken, whole, derived⟩ := (run_reads grammar _).1 _ _ _ ran
    rw [List.append_nil] at whole
    subst whole
    have sound := derived.sound Grammar.shaped_grammar soundTokens Grammar.shaped_topLevel
    refine ⟨_, rfl, List.forall_mem_append.mpr ⟨fun child => follows_of_mem_spread sound, ?_⟩⟩
    exact fun child member => (comments child member).follows
  · cases parsed

/-- What can be relied on in the declarations of a file. A leaf declares nothing, whatever its kind. -/
structure WellDeclared (unit : Tree) : Prop where
  typeNamed : ∀ role kind children, .node role kind children ∈ unit.preorder → kind.DeclaresType →
    ∃ name, (Tree.node role kind children).child? .name = some name ∧ IsName name.text
  fieldTyped : ∀ role kind children, .node role kind children ∈ unit.preorder →
    Declaration.isField (.node role kind children) →
      ∃ type, (Tree.node role kind children).child? .type = some type
  variableNamed : ∀ tree ∈ unit.preorder, Declaration.isField tree →
    ∀ role kind children, .node role kind children ∈ tree.childrenAs .declarator →
      ∃ name, (Tree.node role kind children).child? .name = some name

theorem Declaration.isField_node {role : Role} {kind : Kind} {children : List Tree} :
    isField (.node role kind children) ↔ kind = .fieldDeclaration ∨ kind = .constantDeclaration := by
  simp [isField, Tree.kind]

theorem wellDeclared_of_parse? {source : String} {unit : Tree} (parsed : parse? source = some unit) :
    WellDeclared unit := by
  obtain ⟨parts, rfl, follows⟩ := follows_of_parse? parsed
  have made {role : Role} {kind : Kind} {children : List Tree} (declares : kind ≠ .compilationUnit)
      (inside : .node role kind children ∈ (Tree.node .none .compilationUnit parts).preorder) :
      ∃ production, Grammar.shaped production ∧ Makes grammar production kind children := by
    rcases Tree.mem_preorder_node.mp inside with same | ⟨part, member, below⟩
    · cases same
      exact absurd rfl declares
    · exact follows part member _ _ _ below
  have ofFields {role : Role} {kind : Kind} {children : List Tree}
      (inside : .node role kind children ∈ (Tree.node .none .compilationUnit parts).preorder)
      (isField : Declaration.isField (.node role kind children)) :
      (∃ type, (children.filter (·.role == .type)).head? = some type) ∧
        ∀ declarator ∈ children.filter (·.role == .declarator), declarator.kind = .variableDeclarator := by
    have fieldKind := Declaration.isField_node.mp isField
    obtain ⟨production, shaped, makes⟩ := made (by rcases fieldKind with rfl | rfl <;> decide) inside
    exact makes.type_of_fields shaped fieldKind
  refine ⟨fun role kind children inside isType => ?_, fun role kind children inside isField => ?_,
    fun tree inside isField role kind children member => ?_⟩
  · have declares : kind ≠ .compilationUnit := by
      rintro rfl
      exact absurd isType (by decide)
    obtain ⟨production, shaped, makes⟩ := made declares inside
    obtain ⟨content, found, isName⟩ := makes.name_of_type shaped isType
    exact ⟨_, (Tree.child?_eq_head? _ _).trans found, isName⟩
  · obtain ⟨type, found⟩ := (ofFields inside isField).1
    exact ⟨type, (Tree.child?_eq_head? _ _).trans found⟩
  · cases tree with
    | leaf => cases member
    | node =>
      have isDeclarator : kind = .variableDeclarator := (ofFields inside isField).2 _ member
      have isChild := List.mem_of_mem_filter member
      have below := Tree.preorder_trans (Tree.mem_preorder_of_child isChild (Tree.self_mem_preorder _)) inside
      obtain ⟨production, shaped, makes⟩ := made (by rw [isDeclarator]; decide) below
      obtain ⟨name, found⟩ := makes.name_of_declarator shaped isDeclarator
      exact ⟨name, (Tree.child?_eq_head? _ _).trans found⟩

/-- The trees of the texts that follow the grammar, with their paths. -/
def treesOf (sources : List (String × String)) : List (String × Tree) :=
  sources.filterMap fun source => (parse? source.2).map (source.1, ·)

theorem wellDeclared_of_mem_treesOf {sources : List (String × String)} :
    ∀ file ∈ treesOf sources, WellDeclared file.2 := by
  intro file member
  obtain ⟨source, _, read⟩ := List.mem_filterMap.mp member
  obtain ⟨unit, parsed, rfl⟩ := Option.map_eq_some_iff.mp read
  exact wellDeclared_of_parse? parsed

end Java

end CodeSurvey
