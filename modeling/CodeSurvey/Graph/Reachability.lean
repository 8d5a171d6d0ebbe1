import CodeSurvey.Graph.Dependency
import CodeSurvey.Sum

namespace CodeSurvey

namespace Adjacency

/-- The targets of a node in ascending order; a name that is no key has none. -/
def targets (graph : Adjacency) (node : String) : List String :=
  match graph.get? node with
  | some set => set.toList
  | none => []

/-- The number of edges, those to names that are no key included. -/
def edgeTotal (graph : Adjacency) : Nat :=
  sumOf (·.size) graph.values

/-- Adds to `seen` what can be reached from the nodes in `todo`. Every step takes one of them, and a
node brings in its targets once, so the nodes and edges of the graph bound the steps. -/
def spread (graph : Adjacency) : Nat → List String → NameSet → NameSet
  | 0, _, seen => seen
  | _ + 1, [], seen => seen
  | steps + 1, node :: todo, seen =>
    if seen.contains node then spread graph steps todo seen
    else spread graph steps (graph.targets node ++ todo) (seen.insert node)

/-- The nodes that can be reached from a node, itself included. -/
def reachable (graph : Adjacency) (node : String) : NameSet :=
  spread graph (graph.edgeTotal + 2) [node] ∅

/-- What can be reached from each key. -/
def closure (graph : Adjacency) : Adjacency :=
  graph.map fun node _ => graph.reachable node

/-- The strongly connected component of a key, in ascending order, read off the closure. -/
def component (closure : Adjacency) (node : String) : List String :=
  (closure.targets node).filter fun other => (closure.targets other).contains node

/-- The strongly connected components of the keys, ordered by their least names. -/
def components (graph : Adjacency) : List (List String) :=
  let closure := graph.closure
  graph.keys.filterMap fun node =>
    let members := component closure node
    if members.head? = some node then some members else none

end Adjacency

end CodeSurvey
