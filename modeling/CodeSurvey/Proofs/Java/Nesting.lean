import Mathlib.Data.List.Flatten
import CodeSurvey.Proofs.Java.Attribution
import CodeSurvey.Proofs.Java.Imports

namespace CodeSurvey

theorem intercalate_concat {names : List String} (nonempty : names ≠ []) (name : String) :
    ".".intercalate (names ++ [name]) = ".".intercalate names ++ "." ++ name := by
  rw [String.intercalate_append_of_ne_nil nonempty (List.cons_ne_nil _ _), String.intercalate_singleton]

namespace Java

/-- A tree that declares a type and names it. -/
def Tree.NamesType (tree : Tree) (name : String) : Prop :=
  tree.kind.DeclaresType ∧ ∃ spelled, tree.child? .name = some spelled ∧ spelled.text = name

namespace Node

/-- A node in the body of another. In an enum, the members after the constants stand one level deeper. -/
inductive Encloses (outer : Node) : Node → Prop
  | inBody {body inner} (found : outer.child? .body = some body) (member : inner ∈ body.children) :
      Encloses outer inner
  | afterConstants {body group inner} (found : outer.child? .body = some body)
      (isGroup : group ∈ body.children) (kind : group.tree.kind = .enumBodyDeclarations)
      (member : inner ∈ group.children) : Encloses outer inner

/-- A node at the top of a file or, through the bodies of types, within types of these names. -/
inductive Reaches (unit : Node) : List String → Node → Prop
  | top {node} (isChild : node ∈ unit.children) : Reaches unit [] node
  | nested {names outer name inner} (reached : Reaches unit names outer) (named : outer.tree.NamesType name)
      (encloses : outer.Encloses inner) : Reaches unit (names ++ [name]) inner

end Node

namespace DeclaredType

/-- The types around a declaration, as the walk over a file passes them on. -/
def outerName (names : List String) : Option String :=
  if names = [] then none else some (".".intercalate names)

theorem outerName_concat (names : List String) (name : String) :
    outerName (names ++ [name]) = some (".".intercalate (names ++ [name])) :=
  if_neg (List.concat_ne_nil _ _)

theorem namesType_of_ofTree? {outer : Option String} {tree : Tree} {type : DeclaredType}
    (declares : ofTree? outer tree = some type) :
    tree.NamesType type.name := by
  have isType : tree.kind.DeclaresType := List.mem_map_of_mem (kind_of_ofTree? declares)
  unfold ofTree? at declares
  split at declares
  · next kind spelled _ found =>
    cases declares
    exact ⟨isType, spelled, found, rfl⟩
  · cases declares

theorem localName_of_ofTree? {names : List String} {tree : Tree} {type : DeclaredType}
    (declares : ofTree? (outerName names) tree = some type) :
    type.localName = ".".intercalate (names ++ [type.name]) := by
  unfold ofTree? at declares
  split at declares
  · cases declares
    unfold outerName
    by_cases empty : names = []
    · rw [if_pos empty, empty, List.nil_append, String.intercalate_singleton]
    · rw [if_neg empty, intercalate_concat empty]
  · cases declares

theorem exists_ofTree? {tree : Tree} {name : String} (named : tree.NamesType name) (outer : Option String) :
    ∃ type, ofTree? outer tree = some type ∧ type.name = name := by
  obtain ⟨isType, spelled, found, rfl⟩ := named
  obtain ⟨kind, isType⟩ := Option.isSome_iff_exists.mp (isSome_entityKind?_iff.mpr isType)
  unfold ofTree?
  rw [isType, found]
  exact ⟨_, rfl, rfl⟩

end DeclaredType

namespace Node

section Encloses

variable {outer inner : Node}

theorem encloses_of_mem_declarations (listed : inner ∈ outer.declarations) : outer.Encloses inner := by
  obtain ⟨body, found, listed⟩ := List.mem_flatMap.mp listed
  obtain ⟨member, inBody, listed⟩ := List.mem_flatMap.mp listed
  have found := Option.mem_toList.mp found
  have inBody := List.mem_of_mem_filter inBody
  split at listed
  · next group => exact .afterConstants found inBody (beq_iff_eq.mp group) (List.mem_of_mem_filter listed)
  · cases List.mem_singleton.mp listed
    exact .inBody found inBody

theorem mem_declarations_of_encloses (encloses : outer.Encloses inner)
    (isType : inner.tree.kind.DeclaresType) : inner ∈ outer.declarations := by
  have named : inner.tree.isNamed := by
    refine bne_iff_ne.mpr fun token => ?_
    rw [token] at isType
    exact absurd isType (by decide)
  have noGroup : ¬(inner.tree.kind == .enumBodyDeclarations) := by
    intro group
    rw [beq_iff_eq.mp group] at isType
    exact absurd isType (by decide)
  cases encloses with
  | inBody found member =>
    refine List.mem_flatMap.mpr ⟨_, Option.mem_toList.mpr found, List.mem_flatMap.mpr ⟨inner, ?_, ?_⟩⟩
    · exact List.mem_filter.mpr ⟨member, named⟩
    · rw [if_neg noGroup]
      exact List.mem_singleton_self _
  | @afterConstants _ group _ found isGroup kind member =>
    have namedGroup : group.tree.isNamed := by rw [Tree.isNamed, kind]; rfl
    refine List.mem_flatMap.mpr ⟨_, Option.mem_toList.mpr found, List.mem_flatMap.mpr ⟨group, ?_, ?_⟩⟩
    · exact List.mem_filter.mpr ⟨isGroup, namedGroup⟩
    · rw [if_pos (beq_iff_eq.mpr kind)]
      exact List.mem_filter.mpr ⟨member, named⟩

end Encloses

/-- Every type that is found below a node that can be reached can be reached too, and is named accordingly. -/
theorem reaches_of_mem_types {unit node : Node} {names : List String} {placed : PlacedType}
    (reached : unit.Reaches names node) (found : placed ∈ node.types (DeclaredType.outerName names)) :
    ∃ around, unit.Reaches around placed.node ∧ placed.node.tree.NamesType placed.type.name ∧
      placed.type.localName = ".".intercalate (around ++ [placed.type.name]) := by
  cases declares : DeclaredType.ofTree? (DeclaredType.outerName names) node.tree with
  | none =>
    rw [types_of_none declares] at found
    cases found
  | some type =>
    have named := DeclaredType.namesType_of_ofTree? declares
    have localName := DeclaredType.localName_of_ofTree? declares
    rw [types_of_declares declares] at found
    rcases List.mem_cons.mp found with rfl | nested
    · exact ⟨names, reached, named, localName⟩
    · obtain ⟨declaration, listed, found⟩ := List.mem_flatMap.mp nested
      have smaller := sizeOf_lt_of_mem_declarations listed
      rw [localName, ← DeclaredType.outerName_concat] at found
      exact reaches_of_mem_types (reached.nested named (encloses_of_mem_declarations listed)) found
termination_by sizeOf node.tree

/-- The types below a node that can be reached are among those of the file. -/
theorem types_subset_of_reaches {unit node : Node} {names : List String} (reached : unit.Reaches names node) :
    node.types (DeclaredType.outerName names) ⊆ unit.declaredTypes := by
  induction reached with
  | top isChild => exact fun placed found => List.mem_flatMap.mpr ⟨_, isChild, found⟩
  | @nested names outer name inner _ named encloses ih =>
    obtain ⟨type, declares, rfl⟩ := DeclaredType.exists_ofTree? named (DeclaredType.outerName names)
    have localName := DeclaredType.localName_of_ofTree? declares
    rw [types_of_declares declares] at ih
    intro placed found
    rw [DeclaredType.outerName_concat, ← localName] at found
    cases inside : DeclaredType.ofTree? (some type.localName) inner.tree with
    | none =>
      rw [types_of_none inside] at found
      cases found
    | some innerType =>
      have listed := mem_declarations_of_encloses encloses (DeclaredType.namesType_of_ofTree? inside).1
      exact ih (List.mem_cons_of_mem _ (List.mem_flatMap.mpr ⟨inner, listed, found⟩))

/-- A named declaration that can be reached is a type of the file, under the names on the way to it. -/
theorem exists_type_of_reaches {unit node : Node} {names : List String} {name : String}
    (reached : unit.Reaches names node) (named : node.tree.NamesType name) :
    ∃ placed ∈ unit.declaredTypes, placed.node = node ∧ placed.type.name = name ∧
      placed.type.localName = ".".intercalate (names ++ [name]) := by
  obtain ⟨type, declares, rfl⟩ := DeclaredType.exists_ofTree? named (DeclaredType.outerName names)
  have localName := DeclaredType.localName_of_ofTree? declares
  refine ⟨⟨node, type, DeclaredType.tree_of_ofTree? declares⟩, ?_, rfl, rfl, localName⟩
  apply types_subset_of_reaches reached
  rw [types_of_declares declares]
  exact List.mem_cons_self

theorem reaches_of_mem_declaredTypes {unit : Node} {placed : PlacedType} (declared : placed ∈ unit.declaredTypes) :
    ∃ around, unit.Reaches around placed.node ∧ placed.node.tree.NamesType placed.type.name ∧
      placed.type.localName = ".".intercalate (around ++ [placed.type.name]) := by
  obtain ⟨child, isChild, found⟩ := List.mem_flatMap.mp declared
  exact reaches_of_mem_types (.top isChild) found

section Order

theorem flatMap_nodes_declarations (node : Node) :
    (node.declarations.flatMap nodes).Sublist (node.children.flatMap nodes) := by
  have below (inner : Node) : (inner.children.flatMap nodes).Sublist inner.nodes := by
    rw [nodes_eq inner]
    exact List.sublist_cons_self _ _
  have deeper (inner : Node) : (inner.namedChildren.flatMap nodes).Sublist inner.nodes :=
    (List.filter_sublist.flatMap nodes).trans (below inner)
  have isChild : (node.child? .body).toList.Sublist node.children := by
    rw [child?, ← List.head?_filter, ← List.take_one]
    exact (List.take_sublist _ _).trans List.filter_sublist
  rw [declarations, List.flatMap_assoc]
  refine (List.Sublist.flatMap_right _ fun body _ => ?_).trans (isChild.flatMap nodes)
  refine List.Sublist.trans ?_ (deeper body)
  rw [List.flatMap_assoc]
  refine List.Sublist.flatMap_right _ fun declaration _ => ?_
  split
  · exact deeper declaration
  · rw [List.flatMap_singleton]

/-- Types are found in the order in which their declarations begin. -/
theorem map_node_types (outer : Option String) (node : Node) :
    ((node.types outer).map (·.node)).Sublist node.nodes := by
  cases declares : DeclaredType.ofTree? outer node.tree with
  | none =>
    rw [types_of_none declares]
    exact List.nil_sublist _
  | some type =>
    rw [types_of_declares declares, List.map_cons, List.map_flatMap, nodes_eq]
    have inner : (node.declarations.flatMap fun declaration =>
        (declaration.types (some type.localName)).map (·.node)).Sublist (node.declarations.flatMap nodes) := by
      refine List.Sublist.flatMap_right _ fun declaration listed => ?_
      have smaller := sizeOf_lt_of_mem_declarations listed
      exact map_node_types (some type.localName) declaration
    exact (inner.trans (flatMap_nodes_declarations node)).cons_cons node
termination_by sizeOf node.tree

theorem map_node_declaredTypes (unit : Node) :
    (unit.declaredTypes.map (·.node)).Sublist unit.nodes := by
  rw [declaredTypes, List.map_flatMap, nodes_eq]
  refine List.Sublist.cons _ (List.Sublist.flatMap_right _ fun child _ => ?_)
  exact child.map_node_types none

/-- No node comes before one that it stands below. -/
theorem nodes_pairwise (node : Node) : node.nodes.Pairwise fun earlier later => ¬later.Leads earlier := by
  induction node using nodes.induct with
  | case1 node ih =>
    rw [nodes_eq]
    refine List.pairwise_cons.mpr
      ⟨fun inner below leads => ?_, List.pairwise_flatMap.mpr ⟨fun child isChild => ?_, ?_⟩⟩
    · obtain ⟨child, isChild, below⟩ := List.mem_flatMap.mp below
      have longer := length_address_of_mem_children isChild
      have atLeast := (leads_of_mem_nodes below).length_le
      have atMost := leads.length_le
      omega
    · exact ih ⟨child, isChild⟩
    · refine node.children_apart.imp fun apart inner below inner' below' => ?_
      exact (apart.mono (leads_of_mem_nodes below) (leads_of_mem_nodes below')).back

end Order

end Node

namespace FileContext

/-- The package that a declaration names. -/
def packageName? (declaration : Tree) : Option String :=
  if declaration.kind = .packageDeclaration then declaredName declaration else none

/-- The package of a file, which the last declaration of a package decides; empty where there is none. -/
def declaredPackage (unit : Tree) : String :=
  (unit.children.filterMap packageName?).getLast?.getD ""

theorem package_absorb (context : FileContext) (declaration : Tree) :
    (context.absorb declaration).package = (packageName? declaration).getD context.package := by
  unfold absorb packageName?
  split
  · next kind name => rw [if_pos kind, name, Option.getD_some]
  · next kind _ =>
    have noPackage : declaration.kind ≠ .packageDeclaration := by rw [kind]; decide
    rw [if_neg noPackage, Option.getD_none]
    split <;> rfl
  · next other _ =>
    split
    · next kind =>
      cases named : declaredName declaration with
      | none => rfl
      | some name => exact (other name kind named).elim
    · rfl

theorem package_ofUnit (path : String) (unit : Tree) : (ofUnit path unit).package = declaredPackage unit := by
  have run : ∀ (declarations : List Tree) (context : FileContext),
      (declarations.foldl absorb context).package =
        (declarations.filterMap packageName?).getLast?.getD context.package := by
    intro declarations
    induction declarations with
    | nil => exact fun _ => rfl
    | cons declaration rest ih =>
      intro context
      rw [List.foldl_cons, ih, package_absorb, List.filterMap_cons]
      cases packageName? declaration with
      | none => rfl
      | some name => rw [List.getLast?_cons, Option.getD_some, Option.getD_some]
  exact run unit.children _

end FileContext

end Java

/-- Names joined by dots. -/
structure IsDotted (text : String) : Prop where
  plain : ∀ c ∈ text.toList, Text.continuesIdentifier c ∨ c = '.'
  first : ∃ c, text.toList.head? = some c ∧ c ≠ '.'
  last : text.toList.getLast? ≠ some '.'

theorem IsName.isDotted {name : String} (isName : IsName name) : IsDotted name := by
  obtain ⟨c, rest, split⟩ := List.exists_cons_of_ne_nil (by simpa using isName.1 : name.toList ≠ [])
  have noDot := isName.noDot
  refine ⟨fun c member => Or.inl (isName.2 c member), ⟨c, by rw [split, List.head?_cons], ?_⟩, ?_⟩
  · rintro rfl
    exact noDot (split ▸ List.mem_cons_self)
  · exact fun last => noDot (List.mem_of_getLast? last)

namespace IsDotted

variable {text : String}

theorem concat (front : IsDotted text) {name : String} (isName : IsName name) :
    IsDotted (text ++ "." ++ name) := by
  obtain ⟨plain, ⟨c, first, notDot⟩, _⟩ := front
  obtain ⟨back, _, last⟩ := isName.isDotted
  have split : (text ++ "." ++ name).toList = text.toList ++ '.' :: name.toList := by simp
  have nonempty : name.toList ≠ [] := by simpa using isName.1
  constructor
  · rw [split]
    exact List.forall_mem_append.mpr ⟨plain, List.forall_mem_cons.mpr ⟨Or.inr rfl, back⟩⟩
  · refine ⟨c, ?_, notDot⟩
    rw [split, List.head?_append, first, Option.some_or]
  · rw [split, List.getLast?_append_of_ne_nil _ (List.cons_ne_nil _ _), List.getLast?_cons_of_ne_nil nonempty]
    exact last

theorem className_eq (dotted : IsDotted text) : TypeText.className text = text :=
  TypeText.className_eq_self dotted.plain dotted.last

theorem ne_empty (dotted : IsDotted text) : text ≠ "" := by
  rintro rfl
  obtain ⟨c, first, _⟩ := dotted.first
  cases first

end IsDotted

/-- A name that an entity of a model bears leads to an entity of the model. -/
theorem Resolver.exists_resolve_of_bears {model : Model} (keyed : model.Keyed) {entity : Entity}
    (kept : entity ∈ model.toList) {written : String} (dotted : IsDotted written) (bears : Bears entity written)
    (hint : Option String) :
    ∃ target, (ofModel model).resolve written hint = some target ∧ model.contains target := by
  have meaning := resolve_meaning keyed written hint
  rw [dotted.className_eq] at meaning
  obtain ⟨target, resolved, _⟩ :=
    meaning.exists_of_borne dotted.ne_empty (keyed.contains_of_mem kept) ⟨entity, kept, bears, rfl⟩
  exact ⟨target, resolved, contains_of_resolve keyed resolved⟩

namespace Java

theorem DeclaredType.bears_localName (file : FileContext) {type : DeclaredType} (dotted : IsDotted type.localName) :
    Resolver.Bears (type.entity file) type.localName := by
  obtain ⟨c, first, notDot⟩ := dotted.first
  have start : type.localName.toList.head? ≠ some '.' := by
    rw [first]
    exact fun same => notDot (Option.some.inj same)
  refine ⟨type.localName.toList, Or.inl ?_, Or.inl rfl⟩
  by_cases unnamed : file.package = ""
  · refine ⟨0, ?_, start⟩
    simp [entity, scope, Name.qualify, unnamed]
  · refine ⟨1, ?_, start⟩
    simp [entity, scope, Name.qualify, unnamed]

namespace Node

section DeclaredTypes

variable {unit : Node}

theorem addresses_declaredTypes (unit : Node) : (unit.declaredTypes.map (·.node.address)).Nodup := by
  have kept := unit.map_node_declaredTypes.map address
  rw [List.map_map] at kept
  exact unit.addresses_nodup.sublist kept

theorem eq_of_node_eq {placed other : PlacedType} (declared : placed ∈ unit.declaredTypes)
    (declared' : other ∈ unit.declaredTypes) (same : placed.node = other.node) : placed = other :=
  List.inj_on_of_nodup_map unit.addresses_declaredTypes declared declared' (congrArg address same)

/-- Whichever way leads to a type, its names are those that the type bears. -/
theorem localName_of_reaches {placed : PlacedType} {names : List String} (declared : placed ∈ unit.declaredTypes)
    (reached : unit.Reaches names placed.node) :
    placed.type.localName = ".".intercalate (names ++ [placed.type.name]) := by
  obtain ⟨_, _, named, _⟩ := reaches_of_mem_declaredTypes declared
  obtain ⟨other, declared', same, _, localName⟩ := exists_type_of_reaches reached named
  cases eq_of_node_eq declared' declared same
  exact localName

theorem isIn_of_mem_declaredTypes {placed : PlacedType} (declared : placed ∈ unit.declaredTypes) :
    placed.type.IsIn unit.tree.preorder := by
  have listed := List.mem_map_of_mem (f := PlacedType.type) declared
  rw [map_type_declaredTypes] at listed
  exact DeclaredType.isIn_of_declared listed

theorem isName_of_mem_declaredTypes {placed : PlacedType} (wellDeclared : WellDeclared unit.tree)
    (declared : placed ∈ unit.declaredTypes) : IsName placed.type.name :=
  DeclaredType.isName_of_isIn wellDeclared (isIn_of_mem_declaredTypes declared)

/-- The names on the way to a type, and its own, are names joined by dots. -/
theorem isDotted_of_reaches {node : Node} {names : List String} {name : String}
    (wellDeclared : WellDeclared unit.tree) (reached : unit.Reaches names node)
    (named : node.tree.NamesType name) : IsDotted (".".intercalate (names ++ [name])) := by
  have isName {names : List String} {node : Node} {name : String} (reached : unit.Reaches names node)
      (named : node.tree.NamesType name) : IsName name := by
    obtain ⟨placed, declared, _, rfl, _⟩ := exists_type_of_reaches reached named
    exact isName_of_mem_declaredTypes wellDeclared declared
  induction reached generalizing name with
  | top isChild =>
    rw [List.nil_append, String.intercalate_singleton]
    exact (isName (.top isChild) named).isDotted
  | nested reached around encloses ih =>
    rw [intercalate_concat (List.concat_ne_nil _ _)]
    exact (ih around).concat (isName (reached.nested around encloses) named)

theorem isDotted_localName {placed : PlacedType} (wellDeclared : WellDeclared unit.tree)
    (declared : placed ∈ unit.declaredTypes) : IsDotted placed.type.localName := by
  obtain ⟨_, reached, named, localName⟩ := reaches_of_mem_declaredTypes declared
  rw [localName]
  exact isDotted_of_reaches wellDeclared reached named

end DeclaredTypes

theorem Encloses.leads_of_child {outer inner : Node} (encloses : outer.Encloses inner) :
    ∃ child ∈ outer.children, child.Leads inner := by
  cases encloses with
  | inBody found member => exact ⟨_, mem_children_of_child? found, leads_of_mem_children member⟩
  | afterConstants found isGroup _ member =>
    exact ⟨_, mem_children_of_child? found, (leads_of_mem_children isGroup).trans (leads_of_mem_children member)⟩

/-- The type around another comes before it. -/
theorem index_lt_of_encloses {unit : Node} {i j : Nat} {outer inner : PlacedType}
    (atOuter : unit.declaredTypes[i]? = some outer) (atInner : unit.declaredTypes[j]? = some inner)
    (encloses : outer.node.Encloses inner.node) : i < j := by
  obtain ⟨child, isChild, leads⟩ := encloses.leads_of_child
  have ordered := unit.nodes_pairwise.sublist unit.map_node_declaredTypes
  rcases Nat.lt_trichotomy i j with before | same | after
  · exact before
  · have longer := length_address_of_mem_children isChild
    have shorter := leads.length_le
    cases atOuter.symm.trans (same ▸ atInner)
    omega
  · obtain ⟨inList, rfl⟩ := List.getElem?_eq_some_iff.mp atOuter
    obtain ⟨inList', rfl⟩ := List.getElem?_eq_some_iff.mp atInner
    have apart := List.pairwise_iff_getElem.mp (List.pairwise_map.mp ordered) j i inList' inList after
    exact absurd ((leads_of_mem_children isChild).trans leads) apart

end Node

/-- The types of a file are those that can be reached in it, in the order of their declarations, and their
entities go by the names of the types around them. -/
structure FileContext.Covers (file : FileContext) (unit : Tree) (types : List PlacedType) : Prop where
  reached : ∀ node, node ∈ types.map (·.node) ↔
    ∃ names name, (Node.top unit).Reaches names node ∧ node.tree.NamesType name
  distinct : (types.map (·.node.address)).Nodup
  inOrder : (types.map (·.node)).Sublist (Node.top unit).nodes
  outerFirst : ∀ (i j : Nat) (outer inner : PlacedType), types[i]? = some outer → types[j]? = some inner →
    outer.node.Encloses inner.node → i < j
  name : ∀ placed ∈ types, placed.node.tree.NamesType (placed.type.entity file).name
  kind : ∀ placed ∈ types, (placed.node.tree.kind, (placed.type.entity file).kind) ∈ typeDeclarations
  package : ∀ placed ∈ types, (placed.type.entity file).package = declaredPackage unit
  localName : ∀ placed ∈ types, (placed.type.entity file).qualifiedName =
    Name.qualify (declaredPackage unit) placed.type.localName
  topName : ∀ placed ∈ types, placed.node ∈ (Node.top unit).children →
    placed.type.localName = (placed.type.entity file).name
  nestedName : ∀ outer ∈ types, ∀ inner ∈ types, outer.node.Encloses inner.node →
    (inner.type.entity file).qualifiedName =
      (outer.type.entity file).qualifiedName ++ "." ++ (inner.type.entity file).name

theorem covers_declaredTypes (path : String) (unit : Tree) :
    (FileContext.ofUnit path unit).Covers unit (Node.top unit).declaredTypes where
  reached node := by
    constructor
    · intro listed
      obtain ⟨placed, declared, rfl⟩ := List.mem_map.mp listed
      obtain ⟨names, reached, named, _⟩ := Node.reaches_of_mem_declaredTypes declared
      exact ⟨names, _, reached, named⟩
    · rintro ⟨names, name, reached, named⟩
      obtain ⟨placed, declared, same, _⟩ := Node.exists_type_of_reaches reached named
      exact List.mem_map.mpr ⟨placed, declared, same⟩
  distinct := Node.addresses_declaredTypes _
  inOrder := Node.map_node_declaredTypes _
  outerFirst _ _ _ _ atOuter atInner := Node.index_lt_of_encloses atOuter atInner
  name placed declared := by
    obtain ⟨_, _, named, _⟩ := Node.reaches_of_mem_declaredTypes declared
    exact named
  kind placed declared := by
    obtain ⟨_, _, declares⟩ := Node.isIn_of_mem_declaredTypes declared
    rw [← placed.tree_eq]
    exact DeclaredType.kind_of_ofTree? declares
  package _ _ := FileContext.package_ofUnit path unit
  localName placed _ := by
    rw [← FileContext.package_ofUnit path unit]
    rfl
  topName placed declared isTop := Node.localName_of_reaches declared (.top isTop)
  nestedName outer declared inner declared' encloses := by
    obtain ⟨names, reached, named, localName⟩ := Node.reaches_of_mem_declaredTypes declared
    have localName' := Node.localName_of_reaches declared' (reached.nested named encloses)
    rw [intercalate_concat (List.concat_ne_nil _ _), ← localName] at localName'
    have joined (package : String) : Name.qualify package inner.type.localName =
        Name.qualify package outer.type.localName ++ "." ++ inner.type.name := by
      unfold Name.qualify
      rw [localName']
      split <;> simp only [String.append_assoc]
    exact joined _

/-- A type declared anywhere in a file has one entity, after those of the types around it and under their names.
Where declarations spell out names, as in every file that was read, its simple name and its local name lead to
an entity in whatever model it is. -/
theorem types_are_extracted (path : String) (unit : Tree) :
    let file := FileContext.ofUnit path unit
    let types := (Node.top unit).declaredTypes
    extract path unit = types.map (·.type.entity file) ∧ file.Covers unit types ∧
      (WellDeclared unit → ∀ placed ∈ types, ∀ written ∈ [(placed.type.entity file).name, placed.type.localName],
        ∀ model : Model, model.Keyed → placed.type.entity file ∈ model.toList →
          ∀ hint, ∃ target, (Resolver.ofModel model).resolve written hint = some target ∧ model.contains target) := by
  intro file types
  refine ⟨?_, covers_declaredTypes path unit, fun wellDeclared placed declared written listed => ?_⟩
  · have sameTypes : types.map (·.type) = unit.children.flatMap (DeclaredType.declaredBy none) :=
      Node.map_type_declaredTypes (Node.top unit)
    rw [extract, ← sameTypes, List.map_map]
    rfl
  · intro model keyed kept hint
    have isName := Node.isName_of_mem_declaredTypes wellDeclared declared
    rcases List.mem_pair.mp listed with rfl | rfl
    · obtain ⟨_, _, declares⟩ := Node.isIn_of_mem_declaredTypes declared
      have bears : Resolver.Bears (placed.type.entity file) placed.type.name :=
        DeclaredType.bears_name (DeclaredType.endsIn_of_ofTree? declares) isName
      exact Resolver.exists_resolve_of_bears keyed kept isName.isDotted bears hint
    · have dotted := Node.isDotted_localName wellDeclared declared
      exact Resolver.exists_resolve_of_bears keyed kept dotted (DeclaredType.bears_localName file dotted) hint

/-- A class within a class, an interface after the constants of an enum, a record of the same name as it, and an
annotation type. -/
def shelvesSource : String :=
  "package a.b; class Shelf \x7b class Slot \x7b \x7d enum Kind \x7b ONE, TWO; interface Tag \x7b \x7d \x7d \x7d" ++
    " record Tag(int size) \x7b \x7d @interface Shelved \x7b int row(); \x7d"

theorem types_are_extracted_shelves :
    ∃ unit, parse? shelvesSource = some unit ∧
      (extract "Shelf.java" unit).map (fun entity => (entity.qualifiedName, entity.kind)) =
        [("a.b.Shelf", .classType), ("a.b.Shelf.Slot", .classType), ("a.b.Shelf.Kind", .enumType),
          ("a.b.Shelf.Kind.Tag", .interfaceType), ("a.b.Tag", .recordType), ("a.b.Shelved", .interfaceType)] ∧
      (FileContext.ofUnit "Shelf.java" unit).Covers unit (Node.top unit).declaredTypes ∧
      ∀ written ∈ ["Tag", "Shelf.Kind.Tag"], ∀ hint, ∃ target,
        (Resolver.ofModel (Model.ofList (extract "Shelf.java" unit))).resolve written hint = some target ∧
          (Model.ofList (extract "Shelf.java" unit)).contains target := by
  have evaluated : ∃ unit ∈ (parse? shelvesSource).toList,
      (extract "Shelf.java" unit).map (fun entity => (entity.qualifiedName, entity.kind)) =
        [("a.b.Shelf", .classType), ("a.b.Shelf.Slot", .classType), ("a.b.Shelf.Kind", .enumType),
          ("a.b.Shelf.Kind.Tag", .interfaceType), ("a.b.Tag", .recordType), ("a.b.Shelved", .interfaceType)] ∧
      ∃ type ∈ unit.children.flatMap (DeclaredType.declaredBy none),
        type.name = "Tag" ∧ type.localName = "Shelf.Kind.Tag" ∧
          type.entity (FileContext.ofUnit "Shelf.java" unit) ∈ (Model.ofList (extract "Shelf.java" unit)).toList := by
    decide +kernel
  obtain ⟨unit, parsed, names, type, listed, name, localName, kept⟩ := evaluated
  have parsed := Option.mem_toList.mp parsed
  obtain ⟨_, covers, leads⟩ := types_are_extracted "Shelf.java" unit
  obtain ⟨placed, declared, rfl⟩ := List.mem_map.mp ((Node.map_type_declaredTypes (Node.top unit)).symm ▸ listed)
  refine ⟨unit, parsed, names, covers, fun written isName => ?_⟩
  rw [← name, ← localName] at isName
  exact leads (wellDeclared_of_parse? parsed) placed declared written isName _ (Model.ofList_keyed _) kept

end Java

end CodeSurvey
