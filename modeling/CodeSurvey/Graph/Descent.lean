import CodeSurvey.Graph.Reachability

namespace CodeSurvey

namespace Descent

/-- A bound on the number of nodes: every node is a key or a target. -/
def nodeBound (graph : Adjacency) : Nat :=
  graph.size + graph.edgeTotal + 1

/-- The nodes entered so far, and the circuits closed so far, the latest first. -/
structure Trail where
  entered : NameSet := ∅
  circuits : List (List String) := []

/-- The part of a path (latest node first) from a node on, in the order it was walked. -/
def closing (path : List String) (node : String) : List String :=
  (path.takeWhile (· != node) ++ [node]).reverse

/-- Enters a node and descends into the targets that have not been entered; a target on the path
closes a circuit. A node is entered once, so `nodeBound` bounds the depth. -/
def walk (graph : Adjacency) : Nat → String → List String → Trail → Trail
  | 0, _, _, trail => trail
  | depth + 1, node, above, trail =>
    let path := node :: above
    (graph.targets node).foldl (fun trail next =>
      if next = node then trail
      else if !trail.entered.contains next then walk graph depth next path trail
      else if path.contains next then
        { trail with circuits := closing path next :: trail.circuits }
      else trail) { trail with entered := trail.entered.insert node }

/-- The circuits of at least two nodes that the descent closes. -/
def circuits (graph : Adjacency) : List (List String) :=
  (graph.keys.foldl (fun (trail : Trail) node =>
    if trail.entered.contains node then trail
    else walk graph (nodeBound graph) node [] trail) {}).circuits.reverse

/-- Descends from a node; each node is put in front of those left before it. -/
def leave (graph : Adjacency) : Nat → NameSet × List String → String → NameSet × List String
  | 0, state, _ => state
  | depth + 1, (entered, order), node =>
    if entered.contains node then (entered, order)
    else
      let (entered, order) :=
        (graph.targets node).foldl (leave graph depth) (entered.insert node, order)
      (entered, node :: order)

/-- All nodes, each before what it depends on as far as the graph has no cycles. -/
def order (graph : Adjacency) : List String :=
  (graph.keys.foldl (leave graph (nodeBound graph)) (∅, [])).2

end Descent

end CodeSurvey
