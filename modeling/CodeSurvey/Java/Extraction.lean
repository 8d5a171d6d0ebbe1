import CodeSurvey.Java.Declaration
import CodeSurvey.Java.Grammar

namespace CodeSurvey

namespace Java

/-- The kind of entity that a declaration makes, none when it declares no type. -/
def entityKind? : Kind → Option EntityKind
  | .classDeclaration => some .classType
  | .interfaceDeclaration | .annotationTypeDeclaration => some .interfaceType
  | .enumDeclaration => some .enumType
  | .recordDeclaration => some .recordType
  | _ => none

/-- A type declaration with its name within the file: `Outer.Inner`. -/
structure DeclaredType where
  kind : EntityKind
  name : String
  localName : String
  tree : Tree

namespace DeclaredType

/-- The declaration that a tree is, when it declares a type and names it. -/
def ofTree? (outer : Option String) (tree : Tree) : Option DeclaredType :=
  match entityKind? tree.kind, tree.child? .name with
  | some kind, some name =>
    let localName := match outer with
      | some outer => outer ++ "." ++ name.text
      | none => name.text
    some ⟨kind, name.text, localName, tree⟩
  | _, _ => none

mutual

/-- The type that a tree declares, followed by those declared in its body. -/
def declaredBy (outer : Option String) : Tree → List DeclaredType
  | .leaf _ _ _ => []
  | .node role kind children =>
    match ofTree? outer (.node role kind children) with
    | some type => type :: declaredInBody type.localName children
    | none => []

/-- The types declared in the body, the first of the trees that plays this role. -/
def declaredInBody (outer : String) : List Tree → List DeclaredType
  | [] => []
  | tree :: rest =>
    if tree.role = .body then declaredByMembers outer tree else declaredInBody outer rest

/-- The types declared by the members of a body. -/
def declaredByMembers (outer : String) : Tree → List DeclaredType
  | .leaf _ _ _ => []
  | .node _ _ children => declaredByAll outer children

/-- The members after the constants of an enum have a node of their own. -/
def declaredByAll (outer : String) : List Tree → List DeclaredType
  | [] => []
  | tree :: rest =>
    (if tree.kind = .enumBodyDeclarations then declaredByInner outer tree
      else declaredBy (some outer) tree) ++ declaredByAll outer rest

def declaredByInner (outer : String) : Tree → List DeclaredType
  | .leaf _ _ _ => []
  | .node _ _ children => declaredByEach outer children

def declaredByEach (outer : String) : List Tree → List DeclaredType
  | [] => []
  | tree :: rest => declaredBy (some outer) tree ++ declaredByEach outer rest

end

/-- The member declarations of the body. -/
def declarations (type : DeclaredType) : List Tree :=
  match type.tree.child? .body with
  | some body =>
    body.namedChildren.flatMap fun tree =>
      if tree.kind == .enumBodyDeclarations then tree.namedChildren else [tree]
  | none => []

def isInterface (type : DeclaredType) : Bool :=
  type.kind == .interfaceType

/-- The written types of a list of interfaces, whichever clause holds it. -/
def listedTypes (type : DeclaredType) : List String :=
  let clause := (type.tree.child? .interfaces).or
    ((type.tree.childOfKind? .superInterfaces).or (type.tree.childOfKind? .extendsInterfaces))
  match clause.bind (·.childOfKind? .typeList) with
  | some list => list.namedChildren.map (·.text)
  | none => []

/-- The written superclass. -/
def superTypes (type : DeclaredType) : List String :=
  match type.tree.child? .superclass with
  | some clause => clause.namedChildren.map (·.text)
  | none => []

/-- What the type extends; an interface extends the interfaces it lists. -/
def extended (type : DeclaredType) : List String :=
  type.superTypes ++ (if type.isInterface then type.listedTypes else [])

def implemented (type : DeclaredType) : List String :=
  if type.isInterface then [] else type.listedTypes

/-- The components of a record, which are private fields. -/
def components (type : DeclaredType) : List Member :=
  match type.kind, type.tree.child? .parameters with
  | .recordType, some list =>
    (Declaration.parameters list).map fun p =>
      { Member.field p.name p.typeName with visibility := .priv }
  | _, _ => []

/-- The names and written types of all fields, in the order of their declaration. -/
def fieldTypes (type : DeclaredType) : List (String × String) :=
  type.components.filterMap (fun m => m.typeName.map (m.name, ·)) ++
    type.declarations.flatMap fun declaration =>
      match Declaration.isField declaration, declaration.child? .type with
      | true, some written => (Declaration.declaredNames declaration).map fun v => (v.1, written.text)
      | _, _ => []

/-- The type as its bodies see it. All fields are in scope, those declared further down included. -/
def scope (file : FileContext) (type : DeclaredType) : TypeScope :=
  { file
    qualifiedName := Name.qualify file.package type.localName
    simpleName := type.name
    superclass := type.extended.head?
    fields := type.fieldTypes.foldl (fun m (n, t) => m.insert n t) ∅ }

/-- The members that one declaration of the body adds. -/
def membersOf (scope : TypeScope) (inInterface : Bool) (declaration : Tree) : List Member :=
  if Declaration.isField declaration then Declaration.fields inInterface declaration
  else if Declaration.isCallable declaration then
    [Declaration.callable scope inInterface declaration]
  else []

/-- Whether a declaration holds code that belongs to no member. -/
def isInitializer (declaration : Tree) : Bool :=
  declaration.kind == .staticInitializer || declaration.kind == .block ||
    declaration.kind == .enumConstant

/-- The references that one declaration of the body adds to the type itself. -/
def referencesOf (scope : TypeScope) (declaration : Tree) : List Reference :=
  if Declaration.isField declaration then Declaration.initialReferences scope declaration
  else if isInitializer declaration then
    ((BodyScope.outside scope).findings .classBody declaration).references
  else []

def entity (file : FileContext) (type : DeclaredType) : Entity :=
  let modifiers := Modifiers.ofDeclaration type.tree
  let scope := type.scope file
  { qualifiedName := scope.qualifiedName
    name := type.name
    package := file.package
    filePath := file.path
    kind := type.kind
    isAbstract := modifiers.isAbstract || type.isInterface
    isStatic := modifiers.isStatic
    annotations := modifiers.annotations
    extended := type.extended
    implemented := type.implemented
    members := type.components ++ type.declarations.flatMap (membersOf scope type.isInterface)
    references := type.declarations.flatMap (referencesOf scope)
    startLine := type.tree.firstRow + 1
    endLine := type.tree.lastRow + 1 }

end DeclaredType

/-- The entities of a syntax tree. -/
def extract (path : String) (unit : Tree) : List Entity :=
  let file := FileContext.ofUnit path unit
  (unit.children.flatMap (DeclaredType.declaredBy none)).map (·.entity file)

/-- The entities of a source text, none when it does not follow the grammar. -/
def extractSource? (path source : String) : Option (List Entity) :=
  (parse? source).map (extract path)

end Java

end CodeSurvey
