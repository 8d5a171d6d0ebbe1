import CodeSurvey.Java.BodyScan

namespace CodeSurvey

namespace Java

structure Modifiers where
  visibility : Visibility := .pkg
  isStatic : Bool := false
  isAbstract : Bool := false
  annotations : List String := []

namespace Modifiers

/-- What one modifier adds; the last of several visibilities wins. Annotations are known by the last
part of their name. -/
def absorb (modifiers : Modifiers) (tree : Tree) : Modifiers :=
  match tree.kind with
  | .token =>
    match tree.text with
    | "public" => { modifiers with visibility := .pub }
    | "protected" => { modifiers with visibility := .prot }
    | "private" => { modifiers with visibility := .priv }
    | "static" => { modifiers with isStatic := true }
    | "abstract" => { modifiers with isAbstract := true }
    | _ => modifiers
  | .annotationMark | .annotationUse =>
    match tree.child? .name with
    | some name =>
      { modifiers with annotations := modifiers.annotations ++ [Name.lastSegment name.text] }
    | none => modifiers
  | _ => modifiers

def ofDeclaration (declaration : Tree) : Modifiers :=
  match declaration.childOfKind? .modifiers with
  | some tree => tree.children.foldl absorb {}
  | none => {}

/-- Members of interfaces are public unless they say otherwise. -/
def visibilityIn (modifiers : Modifiers) (inInterface : Bool) : Visibility :=
  if inInterface && modifiers.visibility == .pkg then .pub else modifiers.visibility

end Modifiers

namespace Declaration

/-- A parameter for a variable number of arguments keeps its three dots in the type. -/
def spreadParameter (tree : Tree) : Parameter :=
  let parts := tree.namedChildren
  let type := ((parts.filter fun p => p.kind != .modifiers && p.kind != .variableDeclarator).map
    (·.text)).find? (!·.isEmpty)
  let name := ((parts.filter (·.kind == .variableDeclarator)).getLast?.map
    (BodyScope.roleText · .name)).getD ""
  ⟨name, type.getD "" ++ "..."⟩

/-- The parameters of a list. Brackets after the name belong to the type. -/
def parameters (list : Tree) : List Parameter :=
  list.namedChildren.filterMap fun tree =>
    match tree.kind with
    | .formalParameter =>
      some ⟨BodyScope.roleText tree .name,
        BodyScope.roleText tree .type ++ BodyScope.roleText tree .dimensions⟩
    | .spreadParameter => some (spreadParameter tree)
    | _ => none

def isField (declaration : Tree) : Bool :=
  declaration.kind == .fieldDeclaration || declaration.kind == .constantDeclaration

/-- The variables of a field declaration, each with its declarator. -/
def declaredNames (declaration : Tree) : List (String × Tree) :=
  (declaration.childrenAs .declarator).filterMap fun declarator =>
    (declarator.child? .name).map fun name => (name.text, declarator)

/-- One field for each variable declared. -/
def fields (inInterface : Bool) (declaration : Tree) : List Member :=
  let modifiers := Modifiers.ofDeclaration declaration
  match declaration.child? .type with
  | some type =>
    (declaredNames declaration).map fun (name, _) =>
      { Member.field name type.text with
        visibility := modifiers.visibilityIn inInterface
        isStatic := modifiers.isStatic || inInterface
        annotations := modifiers.annotations
        lineCount := declaration.lineCount }
  | none => []

/-- The references in the initial values of a field declaration. -/
def initialReferences (scope : TypeScope) (declaration : Tree) : List Reference :=
  match declaration.child? .type with
  | some _ =>
    (declaredNames declaration).flatMap fun (_, declarator) =>
      match declarator.child? .value with
      | some value => ((BodyScope.outside scope).findings declarator.kind value).references
      | none => []
  | none => []

def isConstructor (declaration : Tree) : Bool :=
  declaration.kind == .constructorDeclaration ||
    declaration.kind == .compactConstructorDeclaration

def isCallable (declaration : Tree) : Bool :=
  declaration.kind == .methodDeclaration || declaration.kind == .annotationElementDeclaration ||
    isConstructor declaration

/-- A method or constructor without looking into its body. -/
def signature (inInterface : Bool) (declaration : Tree) : Member :=
  let modifiers := Modifiers.ofDeclaration declaration
  let named :=
    if isConstructor declaration then Member.constructor
    else Member.method (BodyScope.roleText declaration .name)
      (((declaration.child? .type).map (·.text)).getD "void")
  { named with
    parameters := ((declaration.child? .parameters).map parameters).getD []
    visibility := modifiers.visibilityIn inInterface
    isStatic := modifiers.isStatic
    annotations := modifiers.annotations
    lineCount := declaration.lineCount }

/-- A method or constructor with what its body shows; without a body it may be abstract. -/
def callable (scope : TypeScope) (inInterface : Bool) (declaration : Tree) : Member :=
  let modifiers := Modifiers.ofDeclaration declaration
  let member := signature inInterface declaration
  match declaration.child? .body with
  | some body =>
    let found := (BodyScope.ofBody scope member.parameters body).findings declaration.kind body
    { member with
      body := some (Text.normalizeBody body.textWithoutComments)
      complexity := 1 + found.branches
      references := found.references
      accessedFields := found.accessedFields.toList }
  | none =>
    { member with isAbstract := modifiers.isAbstract || (inInterface && !modifiers.isStatic) }

end Declaration

end Java

end CodeSurvey
