import CodeSurvey.Graph.Footprint
import CodeSurvey.Sum

namespace CodeSurvey

/-- Who depends on whom, by name. -/
abbrev Adjacency : Type := NameMap NameSet

/-- What could not be placed in the graph. -/
structure GraphDiagnostics where
  unresolvedCalls : Nat := 0
  droppedReferences : Nat := 0
  skippedFiles : List SkippedFile := []
  deriving DecidableEq, Inhabited, Repr

/-- `classDependencies` and `usageCounts` have a key for every entity; `callCounts` and `callers` only
for what is called. -/
structure DependencyGraph where
  classDependencies : Adjacency := ∅
  methodCalls : NameMap NameSet := ∅
  fieldReferences : NameMap NameSet := ∅
  packageDependencies : NameMap NameSet := ∅
  edges : EdgeSet := ∅
  callCounts : NameMap Nat := ∅
  callers : NameMap NameSet := ∅
  usageCounts : NameMap Nat := ∅
  diagnostics : GraphDiagnostics := {}

/-- One more occurrence of a name. -/
def NameMap.increment (counts : NameMap Nat) (name : String) : NameMap Nat :=
  counts.alter name fun count => some (count.getD 0 + 1)

/-- One more element in the set under a name. -/
def NameMap.insertInto (sets : NameMap NameSet) (name element : String) : NameMap NameSet :=
  sets.alter name fun set => some ((set.getD ∅).insert element)

namespace DependencyGraph

/-- Every entity alone, before any footprint is added. -/
def isolated (model : Model) : DependencyGraph where
  classDependencies := model.names.foldl (fun deps name => deps.insert name ∅) ∅
  usageCounts := model.names.foldl (fun counts name => counts.insert name 0) ∅

/-- The declared package of a name in the model, else the package that the name itself shows. -/
def packageOf (model : Model) (name : String) : String :=
  match model.get? name with
  | some entity => entity.package
  | none => Name.packageOf name

/-- The packages that a footprint's entity depends on, its own left out. -/
def addPackages (model : Model) (packages : NameMap NameSet) (f : Footprint) : NameMap NameSet :=
  match model.get? f.entity with
  | some entity =>
    f.dependsOn.toList.foldl (fun packages target =>
      let package := packageOf model target
      if entity.package = package then packages
      else NameMap.insertInto packages entity.package package) packages
  | none => packages

def addCalls (graph : DependencyGraph) (f : Footprint) : DependencyGraph :=
  { graph with
    callCounts := f.callSites.foldl NameMap.increment graph.callCounts
    callers := f.callSites.foldl (fun callers call => NameMap.insertInto callers call f.entity)
      graph.callers
    usageCounts := f.usages.foldl NameMap.increment graph.usageCounts }

/-- A set is recorded under an entity's name only when it has elements. -/
def recordNonempty (sets : NameMap NameSet) (entity : String) (found : NameSet) : NameMap NameSet :=
  if found.isEmpty then sets else sets.insert entity found

def absorb (model : Model) (graph : DependencyGraph) (f : Footprint) : DependencyGraph :=
  { graph.addCalls f with
    classDependencies := graph.classDependencies.insert f.entity f.dependsOn
    methodCalls := recordNonempty graph.methodCalls f.entity f.methodCalls
    fieldReferences := recordNonempty graph.fieldReferences f.entity f.fieldReferences
    packageDependencies := addPackages model graph.packageDependencies f
    edges := graph.edges.insertMany f.edges.toList
    diagnostics :=
      { graph.diagnostics with
        unresolvedCalls := graph.diagnostics.unresolvedCalls + f.unresolvedCalls
        droppedReferences := graph.diagnostics.droppedReferences + f.droppedReferences } }

def merge (model : Model) (footprints : List Footprint) : DependencyGraph :=
  footprints.foldl (absorb model) (isolated model)

def footprints (model : Model) : List Footprint :=
  let resolver := Resolver.ofModel model
  model.toList.map (Footprint.ofEntity resolver)

def build (model : Model) : DependencyGraph :=
  merge model (footprints model)

def withSkippedFiles (graph : DependencyGraph) (skipped : List SkippedFile) : DependencyGraph :=
  { graph with diagnostics := { graph.diagnostics with skippedFiles := skipped } }

def nodeCount (graph : DependencyGraph) : Nat :=
  graph.classDependencies.size

/-- The number of pairs of an entity and one that it depends on. -/
def edgeCount (graph : DependencyGraph) : Nat :=
  sumOf (·.size) graph.classDependencies.values

/-- The names that some entity depends on. -/
def referenced (graph : DependencyGraph) : NameSet :=
  graph.classDependencies.values.foldl (fun found targets => found.insertMany targets.toList) ∅

def dependentsOf (graph : DependencyGraph) (name : String) : List String :=
  (graph.classDependencies.toList.filter fun e => e.2.contains name).map (·.1)

end DependencyGraph

end CodeSurvey
