import CodeSurvey.Proofs.Graph.Release

namespace CodeSurvey.Circuits

/-- Every path that goes on from a node and comes back to the start, in the order of the plain search:
no node is blocked, but none is entered twice. -/
def waysBack (field : Field) : Nat → String → List String → List (List String)
  | 0, _, _ => []
  | depth + 1, node, above =>
    (field.successors node).flatMap fun next =>
      if next = field.start then [(node :: above).reverse]
      else if next ∈ node :: above then []
      else waysBack field depth next (node :: above)

/-- Those of them that take a given step first. -/
def waysVia (field : Field) (depth : Nat) (path : List String) (next : String) : List (List String) :=
  if next = field.start then [path.reverse]
  else if next ∈ path then []
  else waysBack field depth next path

theorem waysBack_succ (field : Field) (depth : Nat) (node : String) (above : List String) :
    waysBack field (depth + 1) node above =
      (field.successors node).flatMap (waysVia field depth (node :: above)) :=
  rfl

/-- Takes a circuit while there is room; the first one beyond the bound ends it. -/
def offer (bound : Nat) (found : List (List String) × Bool) (circuit : List String) :
    List (List String) × Bool :=
  if found.2 then found
  else if found.1.length < bound then (circuit :: found.1, false)
  else (found.1, true)

theorem foldl_offer_truncated (bound : Nat) (more circuits : List (List String)) :
    more.foldl (offer bound) (circuits, true) = (circuits, true) := by
  induction more with
  | nil => rfl
  | cons circuit rest ih => exact ih

theorem untruncated_of_foldl_offer {bound : Nat} {more : List (List String)}
    {found : List (List String) × Bool} (untruncated : (more.foldl (offer bound) found).2 = false) :
    found.2 = false := by
  obtain ⟨circuits, truncated⟩ := found
  cases truncated with
  | false => rfl
  | true => rw [foldl_offer_truncated] at untruncated; exact untruncated

/-- What has been reported, and whether the report is cut. -/
def State.reported (s : State) : List (List String) × Bool :=
  (s.circuits, s.truncated)

/-- One step of `search` from the end of a path. -/
def follow (field : Field) (depth : Nat) (path : List String) (state : Bool × State) (next : String) :
    Bool × State :=
  if state.2.truncated then state
  else if next = field.start then
    (state.1 || (state.2.report field.bound path.reverse).1,
      (state.2.report field.bound path.reverse).2)
  else if state.2.blocked.contains next then state
  else (state.1 || (search field depth next path state.2).1, (search field depth next path state.2).2)

/-- Leaving a node: a circuit was reported behind it, or it waits for its successors. -/
def leaveNode (field : Field) (node : String) (state : Bool × State) : Bool × State :=
  if state.1 then (true, state.2.unblock node)
  else (false, state.2.waitFor node (field.successors node))

theorem search_succ (field : Field) (depth : Nat) (node : String) (above : List String) (s : State) :
    search field (depth + 1) node above s = leaveNode field node
      ((field.successors node).foldl (follow field depth (node :: above)) (false, s.block node)) :=
  rfl

namespace State

theorem mem_waiters_waitFor {s : State} {node name waiter : String} {others : List String} :
    waiter ∈ (s.waitFor node others).waiters name ↔
      waiter = node ∧ name ∈ others ∨ waiter ∈ s.waiters name := by
  induction others generalizing s with
  | nil => simp [waitFor, waiters]
  | cons other rest ih =>
    have first : waiter ∈ (s.waitFor node [other]).waiters name ↔
        waiter = node ∧ name = other ∨ waiter ∈ s.waiters name := by
      rw [mem_waiters, mem_waiters]
      simp only [waitFor, List.foldl_cons, List.foldl_nil, NameMap.getElem?_insertInto]
      split
      · rename_i same
        subst same
        simp only [Option.some.injEq, exists_eq_left', NameSet.mem_insert, and_true]
        cases s.waiting[name]? with
        | none => simp
        | some set => simp
      · rename_i different
        simp [different]
    change waiter ∈ ((s.waitFor node [other]).waitFor node rest).waiters name ↔ _
    rw [ih, first, List.mem_cons]
    tauto

end State

/-- The invariant of the search. Nodes on the path are blocked. A blocked node off the path has no way
back to the start except through the path: all its successors are blocked, none is the start, and it
waits for each of them. Only blocked nodes are waited for. -/
structure Guarded (field : Field) (path : List String) (s : State) : Prop where
  onPath : ∀ node ∈ path, node ∈ s.blocked
  stuck : ∀ node ∈ s.blocked, node ∉ path → ∀ next ∈ field.successors node,
    next ≠ field.start ∧ next ∈ s.blocked ∧ node ∈ s.waiters next
  waited : ∀ node, ∀ waiter ∈ s.waiters node, node ∈ s.blocked

/-- What a search leaves alone: blocked nodes stay blocked, and they wait for nothing new. -/
structure Preserves (before after : State) : Prop where
  blocked : ∀ node ∈ before.blocked, node ∈ after.blocked
  waiters : ∀ node ∈ before.blocked, ∀ name, node ∈ after.waiters name → node ∈ before.waiters name

namespace Preserves

variable {s t u : State}

theorem refl (s : State) : Preserves s s :=
  ⟨fun _ member => member, fun _ _ _ waits => waits⟩

theorem trans (first : Preserves s t) (second : Preserves t u) : Preserves s u where
  blocked := fun node member => second.blocked node (first.blocked node member)
  waiters := fun node member name waits =>
    first.waiters node member name (second.waiters node (first.blocked node member) name waits)

theorem block (s : State) (node : String) : Preserves s (s.block node) :=
  ⟨fun _ member => NameSet.mem_insert.mpr (Or.inr member), fun _ _ _ waits => waits⟩

theorem waitFor {node : String} (preserves : Preserves s t) (fresh : node ∉ s.blocked)
    (others : List String) : Preserves s (t.waitFor node others) where
  blocked := preserves.blocked
  waiters := by
    intro name member other waits
    rcases State.mem_waiters_waitFor.mp waits with ⟨rfl, _⟩ | before
    · exact absurd member fresh
    · exact preserves.waiters name member other before

end Preserves

namespace Guarded

variable {field : Field} {path above : List String} {node : String} {s t : State}

/-- Before the search nothing is blocked and nothing waits. -/
theorem start (field : Field) (circuits : List (List String)) : Guarded field [] { circuits } where
  onPath := by simp
  stuck := fun _ blocked => absurd blocked Std.ExtTreeSet.not_mem_empty
  waited := by simp [State.waiters]

/-- Reports touch neither the blocked nodes nor those that wait. -/
theorem congr (guarded : Guarded field path s) (blocked : t.blocked = s.blocked)
    (waiting : t.waiting = s.waiting) : Guarded field path t := by
  have waiters : t.waiters = s.waiters := by
    funext name
    simp only [State.waiters, waiting]
  refine ⟨?_, ?_, ?_⟩
  · rw [blocked]
    exact guarded.onPath
  · rw [blocked, waiters]
    exact guarded.stuck
  · rw [blocked, waiters]
    exact guarded.waited

/-- From a blocked node off the path the plain search finds nothing: it goes deeper and its path grows, but
every node that it meets is blocked off `path`. -/
theorem waysBack_eq_nil (guarded : Guarded field path s) {depth : Nat} {node : String}
    {above : List String} (within : ∀ name ∈ path, name ∈ above) (blocked : node ∈ s.blocked)
    (off : node ∉ path) : waysBack field depth node above = [] := by
  induction depth generalizing node above with
  | zero => rfl
  | succ depth ih =>
    rw [waysBack_succ, List.flatMap_eq_nil_iff]
    intro next step
    obtain ⟨notStart, nextBlocked, _⟩ := guarded.stuck node blocked off next step
    rw [waysVia, if_neg notStart]
    split
    · rfl
    · rename_i fresh
      exact ih (fun name member => List.mem_cons_of_mem _ (within name member)) nextBlocked
        fun member => fresh (List.mem_cons_of_mem _ (within next member))

theorem block (guarded : Guarded field above s) (node : String) :
    Guarded field (node :: above) (s.block node) where
  onPath := by
    intro name member
    rcases List.mem_cons.mp member with rfl | member
    · exact NameSet.mem_insert.mpr (Or.inl rfl)
    · exact NameSet.mem_insert.mpr (Or.inr (guarded.onPath name member))
  stuck := by
    intro name blocked off next step
    rcases NameSet.mem_insert.mp blocked with rfl | blocked
    · exact absurd (List.mem_cons_self ..) off
    · obtain ⟨notStart, nextBlocked, waits⟩ :=
        guarded.stuck name blocked (fun member => off (List.mem_cons_of_mem _ member)) next step
      exact ⟨notStart, NameSet.mem_insert.mpr (Or.inr nextBlocked), waits⟩
  waited := fun name waiter waits => NameSet.mem_insert.mpr (Or.inr (guarded.waited name waiter waits))

/-- What leaving a node with a report frees was not blocked when the node was entered: the chain of
waiting nodes never leads back to those that were blocked then. -/
theorem not_released (guarded : Guarded field above s) (preserves : Preserves s t)
    (fresh : node ∉ s.blocked) {name : String} (released : State.Released t node name) :
    name ∉ s.blocked := by
  induction released with
  | self => exact fresh
  | @next waited waiter _ waits _ ih =>
    intro member
    exact ih (guarded.waited waited waiter (preserves.waiters waiter member waited waits))

theorem preserves_unblock (guarded : Guarded field above s) (preserves : Preserves s t)
    (fresh : node ∉ s.blocked) (entered : node ∈ t.blocked) : Preserves s (t.unblock node) where
  blocked := fun name member => State.mem_blocked_unblock.mpr
    ⟨preserves.blocked name member, fun released => guarded.not_released preserves fresh released member⟩
  waiters := fun name member other waits => preserves.waiters name member other
    (((t.unblock_unblocks node).frees_of_mem entered).waiters_subset other waits)

/-- Leaving a node after a report. -/
theorem unblock (guarded : Guarded field (node :: above) t)
    (onPath : ∀ name ∈ above, name ∈ (t.unblock node).blocked) :
    Guarded field above (t.unblock node) := by
  have unblocks := t.unblock_unblocks node
  have frees := unblocks.frees_of_mem (guarded.onPath node (List.mem_cons_self ..))
  refine ⟨onPath, ?_, ?_⟩
  · intro name blocked off next step
    have offPath : name ∉ node :: above := by
      intro member
      rcases List.mem_cons.mp member with rfl | member
      · exact unblocks.self_free blocked
      · exact off member
    obtain ⟨notStart, nextBlocked, waits⟩ :=
      guarded.stuck name (frees.blocked name blocked) offPath next step
    have still : next ∈ (t.unblock node).blocked := by
      by_contra free
      exact frees.closed next nextBlocked free name waits blocked
    exact ⟨notStart, still, by rwa [frees.kept next fun _ => still]⟩
  · intro name waiter waits
    have before := guarded.waited name waiter (frees.waiters_subset name waits)
    by_contra free
    rw [frees.cleared name before free] at waits
    simp at waits

/-- Leaving a node without a report: it stays blocked and waits for its successors. -/
theorem waitFor (guarded : Guarded field (node :: above) t)
    (successors : ∀ next ∈ field.successors node, next ≠ field.start ∧ next ∈ t.blocked) :
    Guarded field above (t.waitFor node (field.successors node)) where
  onPath := fun name member => guarded.onPath name (List.mem_cons_of_mem _ member)
  stuck := by
    intro name blocked off next step
    by_cases same : name = node
    · subst same
      exact ⟨(successors next step).1, (successors next step).2,
        State.mem_waiters_waitFor.mpr (Or.inl ⟨rfl, step⟩)⟩
    · obtain ⟨notStart, nextBlocked, waits⟩ := guarded.stuck name blocked
        (fun member => (List.mem_cons.mp member).elim same off) next step
      exact ⟨notStart, nextBlocked, State.mem_waiters_waitFor.mpr (Or.inr waits)⟩
  waited := by
    intro name waiter waits
    rcases State.mem_waiters_waitFor.mp waits with ⟨_, step⟩ | before
    · exact (successors name step).2
    · exact guarded.waited name waiter before

end Guarded

/-- What following some steps from the end of a path comes to. The circuits are those of the plain
search as far as the bound goes. Unless it is cut, the invariant holds again, and the outcome says
whether there was any circuit. -/
structure Follows (field : Field) (path : List String) (ways : List (List String))
    (before after : Bool × State) : Prop where
  reported : after.2.reported = ways.foldl (offer field.bound) before.2.reported
  guarded : after.2.truncated = false → Guarded field path after.2
  preserves : after.2.truncated = false → Preserves before.2 after.2
  found : after.2.truncated = false → after.1 = (before.1 || !ways.isEmpty)

namespace Follows

variable {field : Field} {path : List String} {before middle after : Bool × State}
  {ways more : List (List String)}

theorem before_untruncated (follows : Follows field path ways before after)
    (untruncated : after.2.truncated = false) : before.2.truncated = false :=
  untruncated_of_foldl_offer (by rw [← follows.reported]; exact untruncated)

theorem trans (first : Follows field path ways before middle)
    (second : Follows field path more middle after) :
    Follows field path (ways ++ more) before after where
  reported := by rw [List.foldl_append, ← first.reported, second.reported]
  guarded := second.guarded
  preserves := fun untruncated =>
    (first.preserves (second.before_untruncated untruncated)).trans (second.preserves untruncated)
  found := by
    intro untruncated
    rw [second.found untruncated, first.found (second.before_untruncated untruncated)]
    cases ways with
    | nil => simp
    | cons => simp

/-- A cut report stays as it is, whatever there would be to report. -/
theorem of_truncated (cut : before.2.truncated = true) : Follows field path ways before before where
  reported := by rw [State.reported, cut, foldl_offer_truncated]
  guarded := fun uncut => absurd (cut.symm.trans uncut) Bool.noConfusion
  preserves := fun uncut => absurd (cut.symm.trans uncut) Bool.noConfusion
  found := fun uncut => absurd (cut.symm.trans uncut) Bool.noConfusion

end Follows

/-- What a search from a node comes to: the circuits of the plain search, and a node behind which
there are none stays blocked. -/
structure Searches (field : Field) (depth : Nat) (node : String) (above : List String) (s : State) :
    Prop where
  follows : Follows field above (waysBack field depth node above) (false, s)
    (search field depth node above s)
  blocked : (search field depth node above s).2.truncated = false →
    waysBack field depth node above = [] → node ∈ (search field depth node above s).2.blocked

section Steps

variable {field : Field} {members path : List String} {depth : Nat}
  (run : ∀ (next : String) (s : State), Guarded field path s → s.truncated = false →
    next ∉ s.blocked → next ∈ members → Searches field depth next path s)

include run in
/-- One step keeps the invariant. Where it finds no circuit, the next node is blocked afterwards. -/
theorem follow_follows {next : String} (member : next ∈ members) (found : Bool) {s : State}
    (guarded : Guarded field path s) (untruncated : s.truncated = false) :
    Follows field path (waysVia field depth path next) (found, s)
        (follow field depth path (found, s) next) ∧
      ((follow field depth path (found, s) next).2.truncated = false →
        waysVia field depth path next = [] →
        next ≠ field.start ∧ next ∈ (follow field depth path (found, s) next).2.blocked) := by
  unfold follow waysVia
  simp only [untruncated, Bool.false_eq_true, if_false]
  by_cases start : next = field.start
  · simp only [if_pos start]
    refine ⟨?_, fun _ empty => absurd empty (List.cons_ne_nil _ _)⟩
    unfold State.report
    split
    · rename_i room
      refine ⟨?_, fun _ => guarded.congr rfl rfl, fun _ => ⟨fun _ member => member, fun _ _ _ waits => waits⟩,
        fun _ => rfl⟩
      simp [State.reported, offer, untruncated, room]
    · rename_i full
      refine ⟨?_, fun cut => ?_, fun cut => ?_, fun cut => ?_⟩
      · simp [State.reported, offer, untruncated, full]
      all_goals cases cut
  · simp only [if_neg start]
    by_cases blocked : next ∈ s.blocked
    · have none : (if next ∈ path then [] else waysBack field depth next path) = [] := by
        split
        · rfl
        · rename_i off
          exact guarded.waysBack_eq_nil (fun _ member => member) blocked off
      simp only [if_pos (Std.ExtTreeSet.contains_iff_mem.mpr blocked), none]
      exact ⟨⟨rfl, fun _ => guarded, fun _ => .refl s, fun _ => by simp⟩, fun _ _ => ⟨start, blocked⟩⟩
    · have off : next ∉ path := fun member => blocked (guarded.onPath next member)
      have free : ¬ s.blocked.contains next = true := fun found =>
        blocked (Std.ExtTreeSet.contains_iff_mem.mp found)
      have searched := run next s guarded untruncated blocked member
      simp only [if_neg off, if_neg free]
      refine ⟨⟨searched.follows.reported, searched.follows.guarded, searched.follows.preserves, ?_⟩,
        fun uncut empty => ⟨start, searched.blocked uncut empty⟩⟩
      intro uncut
      rw [searched.follows.found uncut, Bool.false_or]

theorem foldl_follow_truncated {state : Bool × State} (cut : state.2.truncated = true)
    (steps : List String) : steps.foldl (follow field depth path) state = state := by
  induction steps with
  | nil => rfl
  | cons next rest ih =>
    have unchanged : follow field depth path state next = state := if_pos cut
    rw [List.foldl_cons, unchanged, ih]

include run in
/-- All steps together. Only where none finds a circuit are all the next nodes known to be blocked:
a search that reports may free some of those before it. -/
theorem foldl_follow_follows {steps : List String} (inside : ∀ next ∈ steps, next ∈ members) (found : Bool)
    {s : State} (guarded : Guarded field path s) (untruncated : s.truncated = false) :
    Follows field path (steps.flatMap (waysVia field depth path)) (found, s)
        (steps.foldl (follow field depth path) (found, s)) ∧
      ((steps.foldl (follow field depth path) (found, s)).2.truncated = false →
        steps.flatMap (waysVia field depth path) = [] → ∀ next ∈ steps, next ≠ field.start ∧
          next ∈ (steps.foldl (follow field depth path) (found, s)).2.blocked) := by
  induction steps generalizing found s with
  | nil => exact ⟨⟨rfl, fun _ => guarded, fun _ => .refl s, fun _ => by simp⟩, by simp⟩
  | cons next rest ih =>
    obtain ⟨first, firstBlocked⟩ :=
      follow_follows run (inside next (List.mem_cons_self ..)) found guarded untruncated
    rw [List.foldl_cons, List.flatMap_cons]
    cases cut : (follow field depth path (found, s) next).2.truncated with
    | true =>
      rw [foldl_follow_truncated cut]
      refine ⟨first.trans (.of_truncated cut), fun uncut => ?_⟩
      rw [cut] at uncut
      cases uncut
    | false =>
      obtain ⟨later, laterBlocked⟩ := ih (fun name member => inside name (List.mem_cons_of_mem _ member))
        (follow field depth path (found, s) next).1 (first.guarded cut) cut
      refine ⟨first.trans later, fun uncut empty name member => ?_⟩
      obtain ⟨firstEmpty, laterEmpty⟩ := List.append_eq_nil_iff.mp empty
      rcases List.mem_cons.mp member with rfl | member
      · obtain ⟨notStart, blocked⟩ := firstBlocked cut firstEmpty
        exact ⟨notStart, (later.preserves uncut).blocked name blocked⟩
      · exact laterBlocked uncut laterEmpty name member

theorem reported_leaveNode (field : Field) (node : String) (state : Bool × State) :
    (leaveNode field node state).2.reported = state.2.reported := by
  unfold leaveNode
  split
  · have frees := (state.2.unblock_unblocks node).frees
    simp only [State.reported, frees.circuits, frees.truncated]
    rfl
  · rfl

/-- Leaving a node brings back the invariant of the path above it. -/
theorem leaveNode_follows {node : String} {above : List String} {ways : List (List String)} {s : State}
    {state : Bool × State} (guarded : Guarded field above s) (fresh : node ∉ s.blocked)
    (follows : Follows field (node :: above) ways (false, s.block node) state)
    (successors : state.2.truncated = false → ways = [] → ∀ next ∈ field.successors node,
      next ≠ field.start ∧ next ∈ state.2.blocked) :
    Follows field above ways (false, s) (leaveNode field node state) ∧
      ((leaveNode field node state).2.truncated = false → ways = [] →
        node ∈ (leaveNode field node state).2.blocked) := by
  have reported := reported_leaveNode field node state
  have truncated : (leaveNode field node state).2.truncated = state.2.truncated :=
    congrArg Prod.snd reported
  have preserves (uncut : state.2.truncated = false) : Preserves s state.2 :=
    (Preserves.block s node).trans (follows.preserves uncut)
  have entered (uncut : state.2.truncated = false) : node ∈ state.2.blocked :=
    (follows.guarded uncut).onPath node (List.mem_cons_self ..)
  have found (uncut : state.2.truncated = false) : state.1 = !ways.isEmpty := by
    rw [follows.found uncut, Bool.false_or]
  obtain ⟨any, t⟩ := state
  cases any with
  | true =>
    have kept (uncut : t.truncated = false) : Preserves s (t.unblock node) :=
      guarded.preserves_unblock (preserves uncut) fresh (entered uncut)
    refine ⟨⟨reported.trans follows.reported, ?_, ?_, ?_⟩, ?_⟩
    · intro uncut
      rw [truncated] at uncut
      exact (follows.guarded uncut).unblock fun name member =>
        (kept uncut).blocked name (guarded.onPath name member)
    · intro uncut
      rw [truncated] at uncut
      exact kept uncut
    · intro uncut
      rw [truncated] at uncut
      rw [Bool.false_or]
      exact found uncut
    · intro uncut empty
      rw [truncated] at uncut
      have := found uncut
      rw [empty] at this
      cases this
  | false =>
    have empty (uncut : t.truncated = false) : ways = [] := by
      have := found uncut
      cases ways with
      | nil => rfl
      | cons => cases this
    refine ⟨⟨reported.trans follows.reported, ?_, ?_, ?_⟩, ?_⟩
    · intro uncut
      exact (follows.guarded uncut).waitFor (successors uncut (empty uncut))
    · intro uncut
      exact (preserves uncut).waitFor fresh (field.successors node)
    · intro uncut
      rw [Bool.false_or]
      exact found uncut
    · intro uncut _
      exact entered uncut

end Steps

/-- Blocking prunes nothing that leads to a circuit: a search reports what the plain search finds. The
nodes of a path are distinct, so a depth beyond their number is never used up. -/
theorem search_searches {field : Field} {members : List String}
    (inside : ∀ node, ∀ next ∈ field.successors node, next ∈ members) {depth : Nat} {node : String}
    {above : List String} {s : State} (guarded : Guarded field above s)
    (untruncated : s.truncated = false) (fresh : node ∉ s.blocked) (member : node ∈ members)
    (distinct : above.Nodup) (aboveInside : above ⊆ members)
    (enough : members.length < depth + above.length) : Searches field depth node above s := by
  have off : node ∉ above := fun found => fresh (guarded.onPath node found)
  have pathDistinct : (node :: above).Nodup := List.nodup_cons.mpr ⟨off, distinct⟩
  have pathInside : node :: above ⊆ members := List.cons_subset.mpr ⟨member, aboveInside⟩
  induction depth generalizing node above s with
  | zero =>
    have bound := (pathDistinct.subperm pathInside).length_le
    rw [List.length_cons] at bound
    omega
  | succ depth ih =>
    have run : ∀ (next : String) (t : State), Guarded field (node :: above) t → t.truncated = false →
        next ∉ t.blocked → next ∈ members → Searches field depth next (node :: above) t := by
      intro next t nextGuarded uncut nextFresh nextMember
      have nextOff : next ∉ node :: above := fun found => nextFresh (nextGuarded.onPath next found)
      refine ih nextGuarded uncut nextFresh nextMember pathDistinct pathInside ?_ nextOff
        (List.nodup_cons.mpr ⟨nextOff, pathDistinct⟩) (List.cons_subset.mpr ⟨nextMember, pathInside⟩)
      rw [List.length_cons]
      omega
    obtain ⟨follows, blocked⟩ :=
      foldl_follow_follows run (inside node) false (guarded.block node) untruncated
    rw [← waysBack_succ] at follows blocked
    obtain ⟨left, nodeBlocked⟩ := leaveNode_follows guarded fresh follows blocked
    rw [← search_succ] at left nodeBlocked
    exact ⟨left, nodeBlocked⟩

end CodeSurvey.Circuits
