import CodeSurvey.Graph.Cycles
import CodeSurvey.Health
import CodeSurvey.Pattern
import CodeSurvey.Unused

namespace CodeSurvey

structure DependencyResult where
  graph : DependencyGraph
  coupling : CouplingReport
  cycles : CycleReport
  unusedClasses : List String
  unusedMethods : List String

structure MetricsResult where
  classes : List ClassMetrics
  project : ProjectMetrics
  duplicates : List (DuplicationGroup Float)
  methodUsage : List MethodUsage
  mostUsedClasses : List (String × Nat)
  health : Health

structure GraphResult where
  metrics : GraphMetrics
  topologicalOrder : List String
  edges : List Edge
  packageDependencies : NameMap NameSet

/-- Milliseconds spent. -/
structure Timing where
  parse : Nat := 0
  analysis : Nat := 0
  total : Nat := 0
  deriving DecidableEq, Inhabited, Repr

/-- The version of the stored form of an analysis. -/
def schemaVersion : String := "1.1"

/-- A full analysis. `generatedAt` and `timing` say when and how fast it was made and nothing about
the project. -/
structure Analysis where
  schemaVersion : String := CodeSurvey.schemaVersion
  projectRoot : String := ""
  generatedAt : String := ""
  filesParsed : Nat := 0
  dependencies : DependencyResult
  metrics : MetricsResult
  graph : GraphResult
  patterns : PatternSearch
  diagnostics : GraphDiagnostics
  timing : Timing := {}

def DependencyResult.ofModel (config : Config) (model : Model) (skipped : List SkippedFile) :
    DependencyResult :=
  let graph := (DependencyGraph.build model).withSkippedFiles skipped
  { graph
    coupling := CouplingReport.ofGraph graph.classDependencies config.coupling
    cycles := CycleReport.ofGraph graph.classDependencies config.cycles
    unusedClasses := Unused.classes model graph config.entryPoints
    unusedMethods := Unused.methods model graph.callCounts config.entryPoints }

def MetricsResult.ofDependencies (config : Config) (model : Model) (deps : DependencyResult) :
    MetricsResult :=
  let duplicates := Duplication.detect (Duplication.ofConfig config.duplication) model.bodies
  let classes := ClassMetrics.ofModel model deps.graph deps.coupling config.metrics
  let project := ProjectMetrics.ofModel model classes duplicates deps.graph.callCounts
    deps.unusedMethods.length deps.unusedClasses.length config.metrics
  { classes
    project
    duplicates
    methodUsage := deps.graph.methodUsage
    mostUsedClasses := deps.graph.mostUsed config.metrics.mostUsedLimit
    health := Health.assess deps.cycles.cycles.length duplicates.length project }

def GraphResult.ofDependencies (deps : DependencyResult) : GraphResult where
  metrics := deps.graph.metrics deps.cycles.cycles.length
  topologicalOrder := Descent.order deps.graph.classDependencies
  edges := deps.graph.edges.toList
  packageDependencies := deps.graph.packageDependencies

/-- The patterns that a configuration asks for. One that asks for an unknown pattern gets all. -/
def Config.searchedPatterns (config : Config) : List Pattern :=
  match Pattern.byNames config.patterns.enabled with
  | .ok patterns => patterns
  | .error _ => Pattern.all

def Analysis.ofModel (config : Config) (model : Model) (skipped : List SkippedFile) : Analysis :=
  let dependencies := DependencyResult.ofModel config model skipped
  { dependencies
    metrics := MetricsResult.ofDependencies config model dependencies
    graph := GraphResult.ofDependencies dependencies
    patterns := PatternSearch.ofModel model config.searchedPatterns
    diagnostics := dependencies.graph.diagnostics }

end CodeSurvey
