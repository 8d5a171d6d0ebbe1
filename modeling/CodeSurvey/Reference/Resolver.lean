import CodeSurvey.Entity.Model
import CodeSurvey.Reference.TypeText

namespace CodeSurvey

/-- `known` are the qualified names of the model; `index` leads from a local name or a dotted ending
of one to the first entity, in name order, that bears it. -/
structure Resolver where
  known : NameSet
  index : NameMap String

namespace Resolver

/-- The endings of a local name that start after one of its dots, the name itself first. -/
def endings : List Char → List (List Char)
  | [] => [[]]
  | c :: rest =>
    if c = '.' then (c :: rest) :: endings rest
    else
      match endings rest with
      | [] => [c :: rest]
      | _ :: shorter => (c :: rest) :: shorter

/-- A qualified name without the package in front of it, when the package does stand there. -/
def localName (entity : Entity) : List Char :=
  let qualified := entity.qualifiedName.toList
  if entity.package.toList.isPrefixOf qualified then
    (qualified.drop entity.package.toList.length).dropWhile (· == '.')
  else qualified

/-- Registers every ending of one entity's local name that is still free. -/
def indexEntity (index : NameMap String) (entity : Entity) : NameMap String :=
  (endings (localName entity)).foldl (fun index ending =>
    index.insertIfNew (String.ofList ending) entity.qualifiedName) index

/-- All qualified names are registered before any local name, so no local name hides one. -/
def indexModel (model : Model) : NameMap String :=
  model.toList.foldl indexEntity
    (model.names.foldl (fun index name => index.insertIfNew name name) ∅)

def ofModel (model : Model) : Resolver where
  known := Std.ExtTreeSet.ofList model.names compare
  index := indexModel model

/-- The same model without a second stage. -/
def withoutIndex (resolver : Resolver) : Resolver :=
  { resolver with index := ∅ }

/-- First stage: the guess, else the name, as a qualified name. -/
def exact (resolver : Resolver) (name : String) (hint : Option String) : Option String :=
  match hint with
  | some guess =>
    if resolver.known.contains guess then some guess
    else if resolver.known.contains name then some name
    else none
  | none => if resolver.known.contains name then some name else none

/-- Second stage: the name as a local name. -/
def byLocalName (resolver : Resolver) (name : String) : Option String :=
  resolver.index[name]?

/-- The entity that a written type stands for, if any. -/
def resolve (resolver : Resolver) (written : String) (hint : Option String) : Option String :=
  let name := TypeText.className written
  if name.isEmpty then none
  else (resolver.exact name hint).or (resolver.byLocalName name)

end Resolver

end CodeSurvey
