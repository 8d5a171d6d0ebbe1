import CodeSurvey.Coupling
import CodeSurvey.Duplication
import CodeSurvey.Sum

namespace CodeSurvey

/-- Figures of one entity. -/
structure ClassMetrics where
  entity : String
  methodCount : Nat
  fieldCount : Nat
  complexity : Nat
  afferentCoupling : Nat
  efferentCoupling : Nat
  lackOfCohesion : Float
  maintainabilityIndex : Float
  linesOfCode : Nat
  usageCount : Nat

/-- The least value not below `low`, unless that is above `high`. -/
def clampFloat (low high x : Float) : Float :=
  if x < low then low else if x > high then high else x

/-- From 0 to 100, where 100 is the easiest to maintain. It falls with the logarithms of complexity and
size, with complexity itself, and with each method beyond `penaltyAfter`. -/
def maintainabilityIndex (complexity : Float) (linesOfCode methodCount penaltyAfter : Nat) : Float :=
  if linesOfCode = 0 then 100.0
  else
    let complexity := if complexity > 1.0 then complexity else 1.0
    let index := 171.0 - 5.2 * complexity.log - 0.23 * complexity -
      16.2 * (Float.ofNat linesOfCode).log
    let index :=
      if penaltyAfter < methodCount then index - Float.ofNat (methodCount - penaltyAfter) * 0.5
      else index
    clampFloat 0.0 100.0 index

namespace Cohesion

/-- Whether two methods have no accessed field in common. -/
def disjoint (a b : List String) : Bool :=
  !a.any b.contains

end Cohesion

/-- The share of pairs of methods that have no accessed field in common; 0 where there is nothing to
compare. -/
def Entity.lackOfCohesion (entity : Entity) : Float :=
  let accessed := entity.methods.map (·.accessedFields)
  if accessed.length ≤ 1 || entity.fields.isEmpty then 0.0
  else
    let pairs := orderedPairs accessed
    let apart := pairs.filter fun p => Cohesion.disjoint p.1 p.2
    Float.ofNat apart.length / Float.ofNat pairs.length

namespace ClassMetrics

def ofEntity (graph : DependencyGraph) (coupling : CouplingReport) (config : MetricsConfig)
    (entity : Entity) : ClassMetrics :=
  let methodCount := entity.methods.length
  let complexity := sumOf (fun m => max m.complexity 1) entity.methods
  let linesOfCode := sumOf (·.lineCount) entity.callables
  let coupled := coupling.entities.get? entity.qualifiedName
  { entity := entity.qualifiedName
    methodCount
    fieldCount := entity.fields.length
    complexity
    afferentCoupling := (coupled.map (·.afferent)).getD 0
    efferentCoupling := (coupled.map (·.efferent)).getD 0
    lackOfCohesion := entity.lackOfCohesion
    maintainabilityIndex := CodeSurvey.maintainabilityIndex (Float.ofNat complexity) linesOfCode
      methodCount config.methodCountPenaltyAfter
    linesOfCode
    usageCount := graph.usageCounts.getD entity.qualifiedName 0 }

def ofModel (model : Model) (graph : DependencyGraph) (coupling : CouplingReport)
    (config : MetricsConfig) : List ClassMetrics :=
  model.toList.map (ofEntity graph coupling config)

end ClassMetrics

/-- How often a method is called, in words. -/
inductive UsageLevel where
  | unused
  | rarely
  | occasionally
  | frequently
  | heavily
  deriving DecidableEq, Inhabited, Repr

namespace UsageLevel

def classify (calls : Nat) : UsageLevel :=
  if calls = 0 then .unused
  else if calls = 1 then .rarely
  else if calls ≤ 4 then .occasionally
  else if calls ≤ 19 then .frequently
  else .heavily

def text : UsageLevel → String
  | unused => "unused"
  | rarely => "rarely"
  | occasionally => "occasionally"
  | frequently => "frequently"
  | heavily => "heavily"

def label : UsageLevel → String
  | unused => "Unused"
  | rarely => "Rarely Used"
  | occasionally => "Occasionally Used"
  | frequently => "Frequently Used"
  | heavily => "Heavily Used"

end UsageLevel

/-- How often a method is called, and by which entities. -/
structure MethodUsage where
  method : String
  callCount : Nat
  callers : NameSet
  level : UsageLevel

/-- Every called method, the most called first. -/
def DependencyGraph.methodUsage (graph : DependencyGraph) : List MethodUsage :=
  Ranking.sort (·.callCount) (·.method) <|
    graph.callCounts.toList.map fun (method, callCount) =>
      { method, callCount, callers := graph.callers.getD method ∅
        level := .classify callCount : MethodUsage }

/-- The entities that others use most. -/
def DependencyGraph.mostUsed (graph : DependencyGraph) (limit : Nat) : List (String × Nat) :=
  (Ranking.sort (·.2) (·.1) (graph.usageCounts.toList.filter fun e => 0 < e.2)).take limit

/-- Figures of the whole project. -/
structure ProjectMetrics where
  totalClasses : Nat := 0
  totalMethods : Nat := 0
  totalLinesOfCode : Nat := 0
  averageComplexity : Float := 0.0
  averageMaintainability : Float := 0.0
  duplicationRatio : Float := 0.0
  codeReuse : Float := 0.0
  unusedMethods : Nat := 0
  unusedClasses : Nat := 0
  technicalDebt : Float := 0.0

def sumFloats (values : List Float) : Float :=
  values.foldl (· + ·) 0.0

/-- A share of a total, 0 when there is nothing in all. -/
def shareOf (part total : Nat) : Float :=
  if 0 < total then Float.ofNat part / Float.ofNat total else 0.0

/-- The debt points of a project: 10 for each entity that is too complex, 5 for each that is too hard to
maintain, 3 for each group of duplicates, 1 for each unused method and 2 for each unused class. -/
def technicalDebt (classes : List ClassMetrics) (groups unusedMethods unusedClasses : Nat)
    (config : MetricsConfig) : Float :=
  let complex := (classes.filter fun c => config.complexityDebtThreshold < c.complexity).length
  let hard := (classes.filter fun c =>
    c.maintainabilityIndex < config.maintainabilityDebtThreshold).length
  Float.ofNat (complex * 10 + hard * 5 + groups * 3 + unusedMethods + unusedClasses * 2)

namespace ProjectMetrics

/-- The methods of a model that are called more than once. -/
def reused (model : Model) (callCounts : NameMap Nat) : NameSet :=
  Std.ExtTreeSet.ofList ((model.toList.flatMap fun entity =>
    entity.methods.map entity.memberKey).filter fun key => 1 < callCounts.getD key 0) compare

def ofModel (model : Model) (classes : List ClassMetrics) (duplicates : List (DuplicationGroup Float))
    (callCounts : NameMap Nat) (unusedMethods unusedClasses : Nat) (config : MetricsConfig) :
    ProjectMetrics :=
  let totalClasses := classes.length
  let totalMethods := sumOf (·.methodCount) classes
  let totalLinesOfCode := sumOf (·.linesOfCode) classes
  let mean (values : List Float) : Float := sumFloats values / Float.ofNat totalClasses
  { totalClasses
    totalMethods
    totalLinesOfCode
    averageComplexity :=
      if totalClasses = 0 then 0.0 else mean (classes.map fun c => Float.ofNat c.complexity)
    averageMaintainability :=
      if totalClasses = 0 then 100.0 else mean (classes.map (·.maintainabilityIndex))
    duplicationRatio := shareOf (sumOf (·.duplicatedLines) duplicates) totalLinesOfCode
    codeReuse := shareOf (reused model callCounts).size totalMethods
    unusedMethods
    unusedClasses
    technicalDebt :=
      CodeSurvey.technicalDebt classes duplicates.length unusedMethods unusedClasses config }

end ProjectMetrics

/-- Size and density of the graph. -/
structure GraphMetrics where
  nodeCount : Nat
  edgeCount : Nat
  density : Float
  circularDependencies : Nat

/-- The density is the share of edges among all ordered pairs of nodes. -/
def DependencyGraph.metrics (graph : DependencyGraph) (circularDependencies : Nat) : GraphMetrics :=
  let nodeCount := graph.nodeCount
  let edgeCount := graph.edgeCount
  { nodeCount
    edgeCount
    density :=
      if 1 < nodeCount then Float.ofNat edgeCount / Float.ofNat (nodeCount * (nodeCount - 1)) else 0.0
    circularDependencies }

end CodeSurvey
