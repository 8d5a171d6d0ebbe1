import CodeSurvey.Entity.Model
import CodeSurvey.Graph.Dependency
import CodeSurvey.Sum

namespace CodeSurvey

structure Summary where
  projectRoot : String := ""
  totalEntities : Nat := 0
  entitiesByKind : NameMap Nat := ∅
  totalMethods : Nat := 0
  totalFields : Nat := 0
  totalLinesOfCode : Nat := 0
  packages : NameMap Nat := ∅
  filesParsed : Nat := 0
  filesSkipped : Nat := 0

namespace Summary

def ofModel (model : Model) : Summary :=
  let entities := model.toList
  { totalEntities := model.size
    entitiesByKind := (entities.map (·.kind.text)).foldl NameMap.increment ∅
    totalMethods := sumOf (·.methods.length) entities
    totalFields := sumOf (·.fields.length) entities
    totalLinesOfCode := sumOf (fun e => sumOf (·.lineCount) e.callables) entities
    packages := (entities.map (·.package)).foldl NameMap.increment ∅ }

end Summary

end CodeSurvey
