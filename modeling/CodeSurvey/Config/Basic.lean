import CodeSurvey.Name

namespace CodeSurvey

structure DuplicationConfig where
  /-- Bodies more alike than this form a similar pair. -/
  similarityThreshold : Float := 0.8
  /-- Only bodies longer than this are compared for equality. -/
  minBodyLength : Nat := 50
  detectSimilar : Bool := true

/-- Ascending cut points between five bands of stability. -/
structure StabilityBands where
  first : Float := 0.4
  second : Float := 0.6
  third : Float := 0.8
  fourth : Float := 0.9

structure CouplingConfig where
  highCouplingThreshold : Nat := 10
  unstableThreshold : Float := 0.8
  mostUnstableLimit : Nat := 10
  stabilityBands : StabilityBands := {}

structure MetricsConfig where
  complexityDebtThreshold : Nat := 20
  maintainabilityDebtThreshold : Float := 50.0
  /-- More methods than this make an entity harder to maintain. -/
  methodCountPenaltyAfter : Nat := 20
  mostUsedLimit : Nat := 20

/-- What is called from outside the sources: by a framework, a container or a test harness. -/
structure EntryPointConfig where
  annotations : List String :=
    ["Component", "Service", "Repository", "Controller", "RestController", "Configuration"]
  methodAnnotations : List String :=
    ["PostConstruct", "PreDestroy", "EventListener", "Test", "Bean", "Override"]
  testSuffixes : List String := ["Test", "Tests"]
  testPathMarker : String := "/test/"

inductive CycleStrategy where
  | dfs
  | complete
  deriving DecidableEq, Repr

instance : Inhabited CycleStrategy := ⟨.dfs⟩

def CycleStrategy.text : CycleStrategy → String
  | dfs => "dfs"
  | complete => "complete"

structure CycleConfig where
  strategy : CycleStrategy := .dfs
  maxCycles : Nat := 1000

/-- How files are to be read; the result does not depend on it. -/
structure ParallelConfig where
  enabled : Bool := true
  threads : Nat := 0

structure PatternConfig where
  enabled : List String := ["Singleton", "Factory", "GetterSetter", "TestClass"]

structure Config where
  duplication : DuplicationConfig := {}
  coupling : CouplingConfig := {}
  metrics : MetricsConfig := {}
  entryPoints : EntryPointConfig := {}
  cycles : CycleConfig := {}
  parallel : ParallelConfig := {}
  patterns : PatternConfig := {}

end CodeSurvey
