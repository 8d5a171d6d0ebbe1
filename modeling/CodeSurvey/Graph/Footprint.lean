import CodeSurvey.Reference.Resolver

namespace CodeSurvey

/-- How one entity uses another. -/
inductive EdgeKind where
  | inherits
  | implements
  | calls
  | referencesField
  | instantiates
  | referencesType
  deriving DecidableEq, Inhabited, Repr

namespace EdgeKind

def text : EdgeKind → String
  | inherits => "inherits"
  | implements => "implements"
  | calls => "calls"
  | referencesField => "references-field"
  | instantiates => "instantiates"
  | referencesType => "references-type"

/-- The place of a kind when edges of one pair are listed. -/
def rank : EdgeKind → Nat
  | inherits => 0
  | implements => 1
  | calls => 2
  | referencesField => 3
  | instantiates => 4
  | referencesType => 5

end EdgeKind

/-- One entity uses another in one way. -/
structure Edge where
  source : String
  target : String
  kind : EdgeKind
  deriving DecidableEq, Inhabited, Repr

/-- Edges are ordered by source, then target, then kind. -/
def Edge.order : Edge → Edge → Ordering :=
  compareLex (compareOn Edge.source) (compareLex (compareOn Edge.target) (compareOn (·.kind.rank)))

abbrev EdgeSet : Type := Std.ExtTreeSet Edge Edge.order

instance : Std.TransCmp Edge.order :=
  inferInstanceAs (Std.TransCmp
    (compareLex (compareOn Edge.source) (compareLex (compareOn Edge.target) (compareOn (·.kind.rank)))))

/-- The prefix of calls and accesses whose declaring type is unknown. -/
def unresolvedMark : String := "UNRESOLVED"

/-- `callSites` and `usages` have one entry per occurrence, in the order of the code; a use of the
entity itself is no usage. -/
structure Footprint where
  entity : String
  dependsOn : NameSet := ∅
  methodCalls : NameSet := ∅
  fieldReferences : NameSet := ∅
  edges : EdgeSet := ∅
  callSites : List String := []
  usages : List String := []
  unresolvedCalls : Nat := 0
  droppedReferences : Nat := 0

namespace Footprint

def addEdge (f : Footprint) (target : String) (kind : EdgeKind) : Footprint :=
  { f with
    dependsOn := f.dependsOn.insert target
    edges := f.edges.insert ⟨f.entity, target, kind⟩ }

def addUsage (f : Footprint) (target : String) : Footprint :=
  if target = f.entity then f else { f with usages := f.usages ++ [target] }

def addDropped (f : Footprint) : Footprint :=
  { f with droppedReferences := f.droppedReferences + 1 }

/-- A name in a declaration: a superclass, an interface, or a class in a member's type. -/
def addDeclared (resolver : Resolver) (kind : EdgeKind) (f : Footprint) (name : String) : Footprint :=
  match resolver.resolve name none with
  | some target => f.addEdge target kind
  | none => f.addDropped

def addCall (f : Footprint) (target : Option String) (member : String) : Footprint :=
  match target with
  | some target =>
    let call := target ++ "." ++ member
    ({ f with
      methodCalls := f.methodCalls.insert call
      callSites := f.callSites ++ [call] }.addUsage target).addEdge target .calls
  | none =>
    { f with
      methodCalls := f.methodCalls.insert (unresolvedMark ++ "." ++ member)
      unresolvedCalls := f.unresolvedCalls + 1 }

def addInstantiation (f : Footprint) (target : Option String) : Footprint :=
  match target with
  | some target =>
    ({ f with callSites := f.callSites ++ [target ++ "." ++ constructorName] }.addUsage
      target).addEdge target .instantiates
  | none => f.addDropped

def addFieldAccess (f : Footprint) (target : Option String) (member : String) : Footprint :=
  match target with
  | some target =>
    ({ f with fieldReferences := f.fieldReferences.insert (target ++ "." ++ member) }.addUsage
      target).addEdge target .referencesField
  | none =>
    { f with
      fieldReferences := f.fieldReferences.insert (unresolvedMark ++ "." ++ member) }.addDropped

def addTypeUse (f : Footprint) (target : Option String) : Footprint :=
  match target with
  | some target => f.addEdge target .referencesType
  | none => f.addDropped

/-- The entity that a reference leads to; a reference without a target leads nowhere. -/
def targetOf (resolver : Resolver) (reference : Reference) : Option String :=
  reference.target.bind fun written => resolver.resolve written reference.resolved

def addReference (resolver : Resolver) (f : Footprint) (reference : Reference) : Footprint :=
  let target := targetOf resolver reference
  let member := reference.member.getD ""
  match reference.kind with
  | .methodCall => f.addCall target member
  | .instantiation => f.addInstantiation target
  | .fieldAccess => f.addFieldAccess target member
  | .typeUse => f.addTypeUse target

/-- The class names in a member's own type and its parameters' types. -/
def declaredNames (member : Member) : List String :=
  (member.typeName.toList ++ member.parameters.map (·.typeName)).flatMap TypeText.classNames

def addMember (resolver : Resolver) (f : Footprint) (member : Member) : Footprint :=
  member.references.foldl (addReference resolver)
    ((declaredNames member).foldl (addDeclared resolver .referencesType) f)

def ofEntity (resolver : Resolver) (entity : Entity) : Footprint :=
  let f : Footprint := { entity := entity.qualifiedName }
  let f := entity.extended.foldl (addDeclared resolver .inherits) f
  let f := entity.implemented.foldl (addDeclared resolver .implements) f
  let f := entity.members.foldl (addMember resolver) f
  entity.references.foldl (addReference resolver) f

end Footprint

end CodeSurvey
