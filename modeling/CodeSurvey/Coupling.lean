import CodeSurvey.Config.Basic
import CodeSurvey.Graph.Dependency
import CodeSurvey.Ranking
import CodeSurvey.Sum

namespace CodeSurvey

inductive StabilityBand where
  | veryStable
  | stable
  | balanced
  | unstable
  | veryUnstable
  deriving DecidableEq, Inhabited, Repr

namespace StabilityBand

def text : StabilityBand → String
  | veryStable => "very-stable"
  | stable => "stable"
  | balanced => "balanced"
  | unstable => "unstable"
  | veryUnstable => "very-unstable"

/-- The band of an instability: the first whose upper end lies above it. -/
def classify (instability : Float) (bands : StabilityBands) : StabilityBand :=
  if instability < bands.first then .veryStable
  else if instability < bands.second then .stable
  else if instability < bands.third then .balanced
  else if instability < bands.fourth then .unstable
  else .veryUnstable

end StabilityBand

/-- The efferent share of the coupling, 0 when there is none. -/
def instabilityOf (afferent efferent : Nat) : Float :=
  let total := afferent + efferent
  if total = 0 then 0.0 else Float.ofNat efferent / Float.ofNat total

structure Coupling where
  entity : String
  afferent : Nat
  efferent : Nat
  instability : Float
  band : StabilityBand

/-- `highCoupling` and `mostUnstable` are ranked. -/
structure CouplingReport where
  entities : NameMap Coupling := ∅
  highCoupling : List (String × Nat) := []
  mostUnstable : List (String × Float) := []

namespace CouplingReport

/-- For each key of the graph, how many keys have it among their targets. -/
def afferentCounts (graph : Adjacency) : NameMap Nat :=
  graph.values.foldl (fun counts targets =>
    targets.toList.foldl (fun counts target =>
      if counts.contains target then NameMap.increment counts target else counts) counts)
    (graph.map fun _ _ => 0)

def efferentCount (graph : Adjacency) (targets : NameSet) : Nat :=
  (targets.toList.filter graph.contains).length

def couple (bands : StabilityBands) (entity : String) (afferent efferent : Nat) : Coupling :=
  let instability := instabilityOf afferent efferent
  { entity, afferent, efferent, instability, band := .classify instability bands }

def ofGraph (graph : Adjacency) (config : CouplingConfig) : CouplingReport :=
  let afferent := afferentCounts graph
  let entities := graph.map fun name targets =>
    couple config.stabilityBands name (afferent.getD name 0) (efferentCount graph targets)
  let high := entities.values.filter fun c => config.highCouplingThreshold < c.efferent
  let unstable := entities.values.filter fun c => config.unstableThreshold < c.instability
  { entities
    highCoupling := (Ranking.sort (·.efferent) (·.entity) high).map fun c => (c.entity, c.efferent)
    mostUnstable := ((Ranking.sort (fun c => floatRank c.instability) (·.entity) unstable).take
      config.mostUnstableLimit).map fun c => (c.entity, c.instability) }

def totalAfferent (report : CouplingReport) : Nat :=
  sumOf (·.afferent) report.entities.values

def totalEfferent (report : CouplingReport) : Nat :=
  sumOf (·.efferent) report.entities.values

end CouplingReport

end CodeSurvey
