import CodeSurvey.Entity.Basic

namespace CodeSurvey

structure Model where
  entities : NameMap Entity

namespace Model

def empty : Model := ⟨∅⟩

instance : Inhabited Model := ⟨empty⟩

def contains (model : Model) (name : String) : Bool :=
  model.entities.contains name

def get? (model : Model) (name : String) : Option Entity :=
  model.entities[name]?

def size (model : Model) : Nat :=
  model.entities.size

/-- Keeps an entity that is already there under the same name. -/
def insert (model : Model) (entity : Entity) : Model :=
  ⟨model.entities.insertIfNew entity.qualifiedName entity⟩

def ofList (entities : List Entity) : Model :=
  entities.foldl insert empty

def names (model : Model) : List String :=
  model.entities.keys

def toList (model : Model) : List Entity :=
  model.entities.values

def packages (model : Model) : NameSet :=
  Std.ExtTreeSet.ofList (model.toList.map (·.package)) compare

/-- Member ids with the bodies of what can be called and has one. -/
def methodBodies (model : Model) : NameMap String :=
  model.toList.foldl (fun bodies entity =>
    entity.callables.foldl (fun bodies member =>
      match member.body with
      | some body => bodies.insert (entity.memberId member) body
      | none => bodies) bodies) ∅

/-- Member ids with the complexity of what can be called. -/
def methodComplexity (model : Model) : NameMap Nat :=
  model.toList.foldl (fun found entity =>
    entity.callables.foldl (fun found member =>
      found.insert (entity.memberId member) (max member.complexity 1)) found) ∅

end Model

end CodeSurvey
