import CodeSurvey.Graph.Reachability

namespace CodeSurvey

namespace Circuits

/-- What a search may use: the successors of each node within the component and not below the start,
the node where circuits begin and end, and how many circuits may be reported in all. -/
structure Field where
  successors : String → List String
  start : String
  bound : Nat

/-- `waiting` holds for each node those that are to be unblocked together with it. `circuits` are
those found so far, the latest first. -/
structure State where
  blocked : NameSet := ∅
  waiting : NameMap NameSet := ∅
  circuits : List (List String) := []
  truncated : Bool := false

namespace State

def waiters (s : State) (node : String) : List String :=
  match s.waiting.get? node with
  | some set => set.toList
  | none => []

def block (s : State) (node : String) : State :=
  { s with blocked := s.blocked.insert node }

/-- Clears one node: it is free, and nothing waits for it any more. -/
def clear (s : State) (node : String) : State :=
  { s with blocked := s.blocked.erase node, waiting := s.waiting.erase node }

/-- Clears a node and, if they are blocked, those that wait for it. `depth` bounds how long a chain
of waiting nodes is followed; every node of a chain is blocked, so there are no more than blocked
nodes. -/
def unblockWithin : Nat → String → State → State
  | 0, _, s => s
  | depth + 1, node, s =>
    (s.waiters node).foldl (fun s other =>
      if s.blocked.contains other then unblockWithin depth other s else s) (s.clear node)

def unblock (s : State) (node : String) : State :=
  unblockWithin (s.blocked.size + 1) node s

/-- Lets a node wait for each of the others. -/
def waitFor (s : State) (node : String) (others : List String) : State :=
  { s with waiting := others.foldl (fun w other => NameMap.insertInto w other node) s.waiting }

/-- Reports a circuit, or that there is one too many. The outcome says whether it was reported. -/
def report (s : State) (bound : Nat) (circuit : List String) : Bool × State :=
  if s.circuits.length < bound then (true, { s with circuits := circuit :: s.circuits })
  else (false, { s with truncated := true })

end State

/-- Extends the path `above` (latest node first) by a node and follows its successors. The outcome says
whether a circuit was reported. Nodes on the path are blocked, so the nodes of the component bound the
depth. -/
def search (field : Field) : Nat → String → List String → State → Bool × State
  | 0, _, _, s => (false, s)
  | depth + 1, node, above, s =>
    let path := node :: above
    let (found, s) := (field.successors node).foldl (fun (state : Bool × State) next =>
      let (found, s) := state
      if s.truncated then (found, s)
      else if next = field.start then
        let (reported, s) := s.report field.bound path.reverse
        (found || reported, s)
      else if s.blocked.contains next then (found, s)
      else
        let (reported, s) := search field depth next path s
        (found || reported, s)) (false, s.block node)
    if found then (true, s.unblock node)
    else (false, s.waitFor node (field.successors node))

/-- The successors that a search from `start` in a component follows. -/
def successorsWithin (graph : Adjacency) (members : List String) (start node : String) : List String :=
  (graph.targets node).filter fun next =>
    members.contains next && !decide (next < start) && next != node

/-- All circuits of a component whose least node is `start`, added to those found before. -/
def fromStart (graph : Adjacency) (members : List String) (bound : Nat)
    (found : List (List String) × Bool) (start : String) : List (List String) × Bool :=
  if found.2 then found
  else
    let field := ⟨successorsWithin graph members start, start, bound⟩
    let s := (search field (members.length + 1) start [] { circuits := found.1 }).2
    (s.circuits, s.truncated)

/-- The elementary circuits of at least two nodes, each from its least node on, and whether there are
more than `bound`. -/
def enumerate (graph : Adjacency) (bound : Nat) : List (List String) × Bool :=
  let components := graph.components.filter fun members => 1 < members.length
  let (circuits, truncated) := components.foldl (fun found members =>
    members.foldl (fromStart graph members bound) found) ([], false)
  (circuits.reverse, truncated)

end Circuits

end CodeSurvey
