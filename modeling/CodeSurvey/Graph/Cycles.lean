import CodeSurvey.Config.Basic
import CodeSurvey.Graph.Circuits
import CodeSurvey.Graph.Descent

namespace CodeSurvey

structure CycleReport where
  strategy : CycleStrategy
  cycles : List (List String)
  selfLoops : List String
  truncated : Bool := false
  deriving DecidableEq, Inhabited, Repr

namespace CycleReport

def selfLoopsOf (graph : Adjacency) : List String :=
  (graph.toList.filter fun e => e.2.contains e.1).map (·.1)

def ofGraph (graph : Adjacency) (config : CycleConfig) : CycleReport :=
  let selfLoops := selfLoopsOf graph
  match config.strategy with
  | .dfs => ⟨.dfs, Descent.circuits graph, selfLoops, false⟩
  | .complete =>
    let (cycles, truncated) := Circuits.enumerate graph config.maxCycles
    ⟨.complete, cycles, selfLoops, truncated⟩

/-- Cycles and self-loops together. -/
def total (report : CycleReport) : Nat :=
  report.cycles.length + report.selfLoops.length

end CycleReport

end CodeSurvey
