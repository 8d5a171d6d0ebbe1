import CodeSurvey.Entity.Model
import CodeSurvey.Reference.TypeText
import CodeSurvey.Sum

namespace CodeSurvey

/-- The patterns that can be searched for, in the order of reports. -/
inductive Pattern where
  | singleton
  | factory
  | getterSetter
  | testClass
  deriving DecidableEq, Inhabited, Repr

namespace Pattern

def all : List Pattern := [singleton, factory, getterSetter, testClass]

def name : Pattern → String
  | singleton => "Singleton"
  | factory => "Factory"
  | getterSetter => "GetterSetter"
  | testClass => "TestClass"

def description : Pattern → String
  | singleton => "Classes implementing the singleton pattern"
  | factory => "Classes exposing static create methods"
  | getterSetter => "Getter and setter methods"
  | testClass => "Test classes"

def hasPrefix (part name : String) : Bool :=
  part.toList.isPrefixOf name.toList

def hasSuffix (part name : String) : Bool :=
  part.toList.isSuffixOf name.toList

/-- A static field of the entity's own type. -/
def holdsInstance (entity : Entity) : Bool :=
  entity.fields.any fun field =>
    field.isStatic && field.typeName.any fun type =>
      Name.lastSegment (TypeText.className type) == Name.lastSegment entity.name

def matchesEntity (entity : Entity) : Pattern → Bool
  | singleton =>
    entity.members.any (fun m => m.kind == .constructor && m.visibility == .priv) &&
      holdsInstance entity
  | factory => entity.methods.any fun m => m.isStatic && hasPrefix "create" m.name
  | getterSetter => false
  | testClass =>
    hasSuffix "Test" entity.name || hasSuffix "Tests" entity.name ||
      entity.annotations.any fun a => Text.hasInfix "Test".toList a.toList

def matchesMethod (method : Member) : Pattern → Bool
  | singleton | factory => false
  | getterSetter =>
    (hasPrefix "get" method.name || hasPrefix "set" method.name || hasPrefix "is" method.name) &&
      method.parameters.length ≤ 1
  | testClass => method.annotations.contains "Test"

def lowerAscii (text : String) : List Char :=
  text.toList.map Char.toLower

/-- Whether a text is the pattern's name, upper and lower case of ASCII letters being the same. -/
def isNamed (pattern : Pattern) (text : String) : Bool :=
  lowerAscii pattern.name == lowerAscii text

/-- The patterns with the given names in report order, or the first name that is no pattern's. -/
def byNames (names : List String) : Except String (List Pattern) :=
  match names.find? fun text => !all.any (·.isNamed text) with
  | some unknown => .error unknown
  | none => .ok (all.filter fun pattern => names.any pattern.isNamed)

end Pattern

/-- What kind of element matched. -/
inductive ElementKind where
  | entity (kind : EntityKind)
  | method
  deriving DecidableEq, Inhabited, Repr

def ElementKind.text : ElementKind → String
  | entity kind => kind.text
  | method => "method"

structure PatternMatch where
  pattern : String
  element : String
  simpleName : String
  kind : ElementKind
  filePath : String
  deriving DecidableEq, Inhabited, Repr

/-- Matches by pattern name; every pattern searched for has an entry. -/
structure PatternSearch where
  found : NameMap (List PatternMatch) := ∅

namespace PatternSearch

/-- The matches in one entity: the entity itself, then its methods. -/
def inEntity (pattern : Pattern) (entity : Entity) : List PatternMatch :=
  let whole : PatternMatch :=
    { pattern := pattern.name
      element := entity.qualifiedName
      simpleName := entity.name
      kind := .entity entity.kind
      filePath := entity.filePath }
  let methods := entity.methods.filter fun m => pattern.matchesMethod m
  (if pattern.matchesEntity entity then [whole] else []) ++ methods.map fun m =>
    { whole with element := entity.memberKey m, simpleName := m.name, kind := .method }

def ofModel (model : Model) (patterns : List Pattern) : PatternSearch where
  found := patterns.foldl (fun found pattern =>
    found.insert pattern.name (model.toList.flatMap (inEntity pattern))) ∅

def total (search : PatternSearch) : Nat :=
  sumOf (·.length) search.found.values

end PatternSearch

end CodeSurvey
