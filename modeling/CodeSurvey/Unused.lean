import CodeSurvey.Config.Basic
import CodeSurvey.Graph.Dependency

namespace CodeSurvey

namespace EntryPointConfig

def isTestName (config : EntryPointConfig) (name : String) : Bool :=
  config.testSuffixes.any fun ending => ending.toList.isSuffixOf name.toList

/-- A path with all separators written as slashes. -/
def slashed (path : String) : List Char :=
  path.toList.map fun c => if c = '\\' then '/' else c

def isTestPath (config : EntryPointConfig) (path : String) : Bool :=
  !config.testPathMarker.isEmpty && Text.hasInfix config.testPathMarker.toList (slashed path)

/-- An entity that is started or managed from outside. -/
def isEntryPoint (config : EntryPointConfig) (entity : Entity) : Bool :=
  entity.hasMain || config.isTestName entity.name || config.isTestPath entity.filePath ||
    config.annotations.any entity.annotations.contains

/-- A method that is called from outside. -/
def isEntryMethod (config : EntryPointConfig) (entity : Entity) (method : Member) : Bool :=
  method.name == "main" || Text.hasInfix "Test".toList method.name.toList ||
    "test".toList.isPrefixOf method.name.toList || config.isTestName entity.name ||
    config.methodAnnotations.any method.annotations.contains

end EntryPointConfig

namespace Unused

/-- Entities that no entity depends on, entry points left out, in ascending order. -/
def classes (model : Model) (graph : DependencyGraph) (config : EntryPointConfig) : List String :=
  let referenced := graph.referenced
  (model.toList.filter fun entity =>
    !referenced.contains entity.qualifiedName && !config.isEntryPoint entity).map (·.qualifiedName)

/-- The methods of a model, each with the entity that declares it. -/
def declaredMethods (model : Model) : List (Entity × Member) :=
  model.toList.flatMap fun entity => entity.methods.map (entity, ·)

/-- Methods that are never called, in ascending order. Overloads share a key: a call of one of them, or
one that is an entry point, keeps all of them in use. -/
def methods (model : Model) (callCounts : NameMap Nat) (config : EntryPointConfig) : List String :=
  let declared := declaredMethods model
  let isEntry (d : Entity × Member) : Bool := config.isEntryMethod d.1 d.2
  let key (d : Entity × Member) : String := d.1.memberKey d.2
  let uncalled := (declared.filter fun d => callCounts.getD (key d) 0 == 0 && !isEntry d).map key
  let kept := (declared.filter isEntry).map key
  ((Std.ExtTreeSet.ofList uncalled compare).eraseMany kept).toList

end Unused

end CodeSurvey
