import CodeSurvey.Entity.Basic
import CodeSurvey.Java.FileContext

namespace CodeSurvey

namespace Java

/-- The enclosing type as its bodies see it; `fields` maps field names to written types. -/
structure TypeScope where
  file : FileContext
  qualifiedName : String
  simpleName : String
  superclass : Option String
  fields : NameMap String

/-- What a body sees: its type, and the written types of parameters and local variables. -/
structure BodyScope where
  type : TypeScope
  locals : NameMap String

/-- What has been found so far; `branches` counts the places where control may divide. -/
structure Findings where
  references : List Reference := []
  accessedFields : NameSet := ∅
  branches : Nat := 0

/-- A type as far as the syntax tells it: as written, and a guess at its qualified name. -/
structure ScopeType where
  written : Option String := none
  hint : Option String := none

namespace BodyScope

def ownType (scope : BodyScope) : ScopeType :=
  ⟨some scope.type.simpleName, some scope.type.qualifiedName⟩

def writtenType (scope : BodyScope) (written : String) : ScopeType :=
  ⟨some written, scope.type.file.hint written⟩

def startsUpper (name : String) : Bool :=
  name.toList.head?.any fun c => 'A' ≤ c && c ≤ 'Z'

/-- The type of a name: locals hide fields, and only then is it taken for a class. -/
def nameType (scope : BodyScope) (name : String) : ScopeType :=
  match scope.locals.get? name, scope.type.fields.get? name with
  | some written, _ => scope.writtenType written
  | none, some written => scope.writtenType written
  | none, none => if startsUpper name then scope.writtenType name else {}

/-- The text of the child in a role, empty when there is none. -/
def roleText (tree : Tree) (role : Role) : String :=
  ((tree.child? role).map (·.text)).getD ""

def isThis (tree : Tree) : Bool :=
  tree.kind == .this

/-- The type of what stands before the dot, except for parentheses. -/
def plainType (scope : BodyScope) (object : Tree) : ScopeType :=
  match object.kind with
  | .this => scope.ownType
  | .super => (scope.type.superclass.map scope.writtenType).getD {}
  | .identifier => scope.nameType object.text
  | .fieldAccess =>
    match scope.type.fields.get? (roleText object .field), (object.child? .object).any isThis with
    | some written, true => scope.writtenType written
    | _, _ => {}
  | .objectCreation | .castExpression =>
    ((object.child? .type).map fun type => scope.writtenType type.text).getD {}
  | _ => {}

mutual

/-- The type of what stands before the dot of a call or field access. -/
def objectType (scope : BodyScope) : Tree → ScopeType
  | .leaf role kind content => scope.plainType (.leaf role kind content)
  | .node role kind children =>
    if kind = .parenthesizedExpression then firstType scope children
    else scope.plainType (.node role kind children)

/-- The type of the first child that is no mere token. -/
def firstType (scope : BodyScope) : List Tree → ScopeType
  | [] => {}
  | tree :: rest => if tree.isNamed then objectType scope tree else firstType scope rest

end

/-- One reference for every class named in a written type. -/
def typeUses (scope : BodyScope) (written : String) : List Reference :=
  (TypeText.classNames written).map fun name =>
    (Reference.typeUse name).withHint (scope.type.file.hint name)

/-- A name under this parent is the name of a method, of a field behind a dot or of a variable being
declared, and so no use of a field of the enclosing type. -/
def namesOther (parent : Kind) (role : Role) : Bool :=
  match parent, role with
  | .methodInvocation, .name => true
  | .fieldAccess, .field => true
  | .variableDeclarator, .name => true
  | _, _ => false

def isFieldUse (scope : BodyScope) (parent : Kind) (role : Role) (name : String) : Bool :=
  scope.type.fields.contains name && !scope.locals.contains name && !namesOther parent role

end BodyScope

namespace Findings

def refer (found : Findings) (references : List Reference) : Findings :=
  { found with references := found.references ++ references }

def touch (found : Findings) (field : String) : Findings :=
  { found with accessedFields := found.accessedFields.insert field }

def branch (found : Findings) : Findings :=
  { found with branches := found.branches + 1 }

/-- What a node itself adds, below `parent`. -/
def visit (scope : BodyScope) (parent : Kind) (tree : Tree) (found : Findings) : Findings :=
  match tree.kind with
  | .ifStatement | .whileStatement | .forStatement | .enhancedForStatement | .catchClause
  | .ternaryExpression => found.branch
  -- the label `default` has no named child
  | .switchLabel => if tree.namedChildren.isEmpty then found else found.branch
  | .methodInvocation =>
    let target := ((tree.child? .object).map scope.objectType).getD scope.ownType
    found.refer [(Reference.call target.written (BodyScope.roleText tree .name)).withHint target.hint]
  | .objectCreation =>
    match tree.child? .type with
    | some type =>
      found.refer [(Reference.instantiation type.text).withHint (scope.type.file.hint type.text)]
    | none => found
  | .fieldAccess =>
    match tree.child? .object with
    | some object =>
      let field := BodyScope.roleText tree .field
      let target := scope.objectType object
      let found :=
        if BodyScope.isThis object && scope.type.fields.contains field then found.touch field else found
      found.refer [(Reference.fieldAccess target.written field).withHint target.hint]
    | none => found
  | .identifier =>
    if scope.isFieldUse parent tree.role tree.text then found.touch tree.text else found
  | .localVariableDeclaration | .castExpression =>
    match tree.child? .type with
    | some type => found.refer (scope.typeUses type.text)
    | none => found
  | .catchType => found.refer (tree.namedChildren.flatMap fun type => scope.typeUses type.text)
  | _ => found

mutual

/-- Visits a node and then all below it, from left to right. -/
def scan (scope : BodyScope) (parent : Kind) : Tree → Findings → Findings
  | .leaf role kind content, found => visit scope parent (.leaf role kind content) found
  | .node role kind children, found =>
    scanAll scope kind children (visit scope parent (.node role kind children) found)

def scanAll (scope : BodyScope) (parent : Kind) : List Tree → Findings → Findings
  | [], found => found
  | tree :: rest, found => scanAll scope parent rest (scan scope parent tree found)

end

end Findings

namespace BodyScope

/-- The variables that a node declares for the body around it, with their written types. -/
def declared (tree : Tree) : List (String × String) :=
  match tree.kind with
  | .localVariableDeclaration =>
    match tree.child? .type with
    | some type =>
      (tree.childrenAs .declarator).filterMap fun declarator =>
        (declarator.child? .name).map fun name => (name.text, type.text)
    | none => []
  | .enhancedForStatement | .resource | .catchFormalParameter =>
    match (tree.child? .type).or (tree.childOfKind? .catchType), tree.child? .name with
    | some type, some name => [(name.text, type.text)]
    | _, _ => []
  | _ => []

/-- The scope of a body: parameters first, then every variable declared anywhere in it, the last
declaration of a name deciding. -/
def ofBody (type : TypeScope) (parameters : List Parameter) (body : Tree) : BodyScope :=
  let given := parameters.map fun p =>
    (p.name, String.ofList (TypeText.dropFinalEllipses p.typeName.toList))
  ⟨type, (given ++ body.preorder.flatMap declared).foldl (fun m (n, t) => m.insert n t) ∅⟩

/-- The scope of code that stands outside methods and constructors. -/
def outside (type : TypeScope) : BodyScope :=
  ⟨type, ∅⟩

/-- All that is found in a tree that stands below `parent`. -/
def findings (scope : BodyScope) (parent : Kind) (tree : Tree) : Findings :=
  Findings.scan scope parent tree {}

end BodyScope

end Java

end CodeSurvey
