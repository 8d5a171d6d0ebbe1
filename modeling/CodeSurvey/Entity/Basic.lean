import CodeSurvey.Name

namespace CodeSurvey

inductive EntityKind where
  | classType
  | interfaceType
  | enumType
  | recordType
  deriving DecidableEq, Inhabited, Repr

def EntityKind.text : EntityKind → String
  | classType => "class"
  | interfaceType => "interface"
  | enumType => "enum"
  | recordType => "record"

/-- Declared visibility; `pkg` is what a declaration without a modifier has. -/
inductive Visibility where
  | pub
  | prot
  | priv
  | pkg
  deriving DecidableEq, Repr

instance : Inhabited Visibility := ⟨.pkg⟩

def Visibility.text : Visibility → String
  | pub => "public"
  | prot => "protected"
  | priv => "private"
  | pkg => "package"

inductive MemberKind where
  | field
  | method
  | constructor
  deriving DecidableEq, Inhabited, Repr

def MemberKind.text : MemberKind → String
  | field => "field"
  | method => "method"
  | constructor => "constructor"

inductive ReferenceKind where
  | methodCall
  | instantiation
  | fieldAccess
  | typeUse
  deriving DecidableEq, Repr

instance : Inhabited ReferenceKind := ⟨.typeUse⟩

def ReferenceKind.text : ReferenceKind → String
  | methodCall => "method_call"
  | instantiation => "instantiation"
  | fieldAccess => "field_access"
  | typeUse => "type_use"

/-- A reference as the code shows it. `target` is the written type of the scope, absent when the
syntax does not tell it; `resolved` is a guess at the qualified name that only counts when an entity
has that name. -/
structure Reference where
  kind : ReferenceKind := .typeUse
  target : Option String := none
  member : Option String := none
  resolved : Option String := none
  deriving DecidableEq, Inhabited, Repr

namespace Reference

def call (target : Option String) (member : String) : Reference :=
  { kind := .methodCall, target, member := some member }

def instantiation (target : String) : Reference :=
  { kind := .instantiation, target := some target }

def fieldAccess (target : Option String) (member : String) : Reference :=
  { kind := .fieldAccess, target, member := some member }

def typeUse (target : String) : Reference :=
  { kind := .typeUse, target := some target }

/-- Attaches a guess at the qualified name, when there is one. -/
def withHint (reference : Reference) : Option String → Reference
  | some name => { reference with resolved := some name }
  | none => reference

end Reference

structure Parameter where
  name : String
  typeName : String
  deriving DecidableEq, Inhabited, Repr

/-- The name under which constructors are recorded and counted. -/
def constructorName : String := "<init>"

/-- A field, method or constructor. `body` is in layout-free form; `complexity` counts branches and
is at least 1 for what can be called. -/
structure Member where
  kind : MemberKind
  name : String
  typeName : Option String := none
  parameters : List Parameter := []
  visibility : Visibility := .pkg
  isStatic : Bool := false
  isAbstract : Bool := false
  annotations : List String := []
  body : Option String := none
  complexity : Nat
  lineCount : Nat := 0
  references : List Reference := []
  accessedFields : List String := []
  deriving DecidableEq, Inhabited, Repr

namespace Member

def field (name typeName : String) : Member :=
  { kind := .field, name, typeName := some typeName, complexity := 0 }

def method (name returnType : String) : Member :=
  { kind := .method, name, typeName := some returnType, complexity := 1 }

def constructor : Member :=
  { kind := .constructor, name := constructorName, complexity := 1 }

def withComplexity (member : Member) (complexity : Nat) : Member :=
  { member with complexity := max complexity 1 }

def isCallable (member : Member) : Bool :=
  member.kind != .field

/-- The parameter types in parentheses, as in `(String,int)`. -/
def signature (member : Member) : String :=
  "(" ++ ",".intercalate (member.parameters.map (·.typeName)) ++ ")"

/-- A public static method named `main`. -/
def isMain (member : Member) : Bool :=
  member.kind == .method && member.name == "main" && member.isStatic && member.visibility == .pub

end Member

/-- A type declaration. `extended` and `implemented` hold the names as written; `references` those
that occur outside members, in initialisers and enum constants. -/
structure Entity where
  qualifiedName : String
  name : String
  package : String
  filePath : String
  kind : EntityKind
  isAbstract : Bool := false
  isStatic : Bool := false
  annotations : List String := []
  extended : List String := []
  implemented : List String := []
  members : List Member := []
  references : List Reference := []
  startLine : Nat := 0
  endLine : Nat := 0
  deriving DecidableEq, Inhabited, Repr

namespace Entity

/-- A top-level entity with nothing in it yet. -/
def declare (kind : EntityKind) (package name filePath : String) : Entity :=
  { qualifiedName := Name.qualify package name, name, package, filePath, kind }

def fields (entity : Entity) : List Member :=
  entity.members.filter (·.kind == .field)

def methods (entity : Entity) : List Member :=
  entity.members.filter (·.kind == .method)

def callables (entity : Entity) : List Member :=
  entity.members.filter (·.isCallable)

def hasMain (entity : Entity) : Bool :=
  entity.members.any (·.isMain)

/-- A member's name within the project, overloads told apart: `a.B.run(int)`. -/
def memberId (entity : Entity) (member : Member) : String :=
  entity.qualifiedName ++ "." ++ member.name ++ member.signature

/-- A member's name within the project, overloads together: `a.B.run`. -/
def memberKey (entity : Entity) (member : Member) : String :=
  entity.qualifiedName ++ "." ++ member.name

/-- The number of lines of the declaration, 0 when its lines are unknown or reversed. -/
def lineSpan (entity : Entity) : Nat :=
  if entity.startLine ≤ entity.endLine ∧ 0 < entity.endLine then
    entity.endLine - entity.startLine + 1
  else 0

end Entity

/-- A source file that gave no entities, and why. -/
structure SkippedFile where
  path : String
  reason : String
  deriving DecidableEq, Inhabited, Repr

end CodeSurvey
