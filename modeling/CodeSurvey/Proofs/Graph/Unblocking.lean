import CodeSurvey.Proofs.Graph.Enumeration

namespace CodeSurvey.Circuits

namespace State

variable {s t u : State} {node : String}

/-- Going through waiting nodes without a bound: each one that is blocked when its turn comes is cleared, and
those that wait for it are gone through before the next. -/
inductive Releases : State → List String → State → Prop
  | done {s : State} : Releases s [] s
  | skip {s t : State} {waiter : String} {rest : List String} : waiter ∉ s.blocked → Releases s rest t →
      Releases s (waiter :: rest) t
  | unblock {s t u : State} {waiter : String} {rest : List String} : waiter ∈ s.blocked →
      Releases (s.clear waiter) (s.waiters waiter) t → Releases t rest u → Releases s (waiter :: rest) u

/-- Unblocking a node without a bound ends in a state. -/
def UnblockingEnds (s : State) (node : String) (t : State) : Prop :=
  Releases (s.clear node) (s.waiters node) t

theorem Releases.unique {waiters : List String} (first : Releases s waiters t) (second : Releases s waiters u) :
    t = u := by
  induction first generalizing u with
  | done =>
    cases second
    rfl
  | skip free _ ih =>
    cases second with
    | skip _ rest => exact ih rest
    | unblock blocked _ _ => exact absurd blocked free
  | unblock blocked _ _ ihWaiting ihRest =>
    cases second with
    | skip free _ => exact absurd blocked free
    | unblock _ waiting rest =>
      cases ihWaiting waiting
      exact ihRest rest

section Depth

variable {depth : Nat}
  (ends : ∀ (s : State) (node : String), (s.clear node).blocked.size < depth →
    UnblockingEnds s node (unblockWithin depth node s))

include ends

theorem foldl_release_releases (waiters : List String) (s : State) (enough : s.blocked.size ≤ depth) :
    Releases s waiters (waiters.foldl (release depth) s) := by
  induction waiters generalizing s with
  | nil => exact .done
  | cons waiter rest ih =>
    have frees := (release_frees (fun _ _ => unblockWithin_unblocks) waiter enough).1
    have later := ih (release depth s waiter) ((NameSet.size_le_of_subset frees.blocked).trans enough)
    rw [List.foldl_cons]
    by_cases blocked : waiter ∈ s.blocked
    · have released : release depth s waiter = unblockWithin depth waiter s :=
        if_pos (Std.ExtTreeSet.contains_iff_mem.mpr blocked)
      have smaller := (NameSet.size_erase_of_mem blocked).trans_le enough
      exact .unblock blocked (released ▸ ends s waiter smaller) later
    · have kept : release depth s waiter = s :=
        if_neg fun found => blocked (Std.ExtTreeSet.contains_iff_mem.mp found)
      rw [kept] at later ⊢
      exact .skip blocked later

end Depth

/-- A depth above the number of nodes that are still blocked is never used up. -/
theorem unblockWithin_ends {depth : Nat} (enough : (s.clear node).blocked.size < depth) :
    UnblockingEnds s node (unblockWithin depth node s) := by
  induction depth generalizing s node with
  | zero => omega
  | succ depth ih =>
    rw [UnblockingEnds, unblockWithin_succ]
    exact foldl_release_releases (fun _ _ => ih) (s.waiters node) (s.clear node) (Nat.le_of_lt_succ enough)

theorem unblockingEnds_iff : UnblockingEnds s node t ↔ t = s.unblock node := by
  have ends : UnblockingEnds s node (s.unblock node) := unblockWithin_ends (Nat.lt_succ_of_le
    (NameSet.size_le_of_subset fun _ member => (mem_blocked_clear.mp member).2))
  constructor
  · exact fun run => run.unique ends
  · rintro rfl
    exact ends

/-- What unblocking a node comes to: it is free, and so is all that waits for it through nodes that were
blocked. Nothing waits for these any more. The rest is as it was. -/
structure FreesWaiting (before : State) (node : String) (after : State) : Prop where
  free : ∀ name, name ∉ after.blocked ↔ name ∉ before.blocked ∨ Released before node name
  emptied : ∀ name, Released before node name → after.waiters name = []
  kept : ∀ name, ¬Released before node name → after.waiters name = before.waiters name
  circuits : after.circuits = before.circuits
  truncated : after.truncated = before.truncated

theorem unblock_freesWaiting (s : State) (node : String) : FreesWaiting s node (s.unblock node) := by
  have unblocks := s.unblock_unblocks node
  have frees := unblocks.frees
  refine ⟨fun name => ?_, fun name released => ?_, fun name unreleased => ?_, frees.circuits, frees.truncated⟩
  · rw [mem_blocked_unblock]
    tauto
  · by_cases same : name = node
    · rw [same, frees.kept node fun cleared => absurd rfl (mem_blocked_clear.mp cleared).1, waiters_clear_self]
    · have blocked := released.eq_or_blocked.resolve_left same
      exact frees.cleared name (mem_blocked_clear.mpr ⟨same, blocked⟩) (unblocks.released_free released)
  · have different : name ≠ node := by
      rintro rfl
      exact unreleased .self
    have stays (cleared : name ∈ (s.clear node).blocked) : name ∈ (s.unblock node).blocked :=
      mem_blocked_unblock.mpr ⟨(mem_blocked_clear.mp cleared).2, unreleased⟩
    rw [frees.kept name stays, waiters_clear_of_ne different]

end State

/-- A call of the search: how deep it may go, the node that it enters, the path above and the state. -/
structure Call where
  depth : Nat
  node : String
  above : List String
  state : State

/-- What a call has come to when it has followed some of the steps from its node. -/
def Call.after (field : Field) (call : Call) (depth : Nat) (steps : List String) : Bool × State :=
  steps.foldl (follow field depth (call.node :: call.above)) (false, call.state.block call.node)

/-- What a call has come to when it is about to leave its node. -/
def Call.leaving (field : Field) (call : Call) (depth : Nat) : Bool × State :=
  call.after field depth (field.successors call.node)

/-- The calls that a call leads to: itself, and those that `follow` makes, for a next node that is neither the
start nor blocked, as long as the report is not cut. -/
inductive LeadsTo (field : Field) (first : Call) : Call → Prop
  | self : LeadsTo field first first
  | next {call : Call} {depth : Nat} {earlier later : List String} {next : String} : LeadsTo field first call →
      call.depth = depth + 1 → field.successors call.node = earlier ++ next :: later →
      (call.after field depth earlier).2.truncated = false → next ≠ field.start →
      next ∉ (call.after field depth earlier).2.blocked →
      LeadsTo field first ⟨depth, next, call.node :: call.above, (call.after field depth earlier).2⟩

/-- What holds when a call begins. -/
structure Entered (field : Field) (members : List String) (call : Call) : Prop where
  guarded : Guarded field call.above call.state
  untruncated : call.state.truncated = false
  fresh : call.node ∉ call.state.blocked
  member : call.node ∈ members
  distinct : call.above.Nodup
  inside : call.above ⊆ members
  enough : members.length < call.depth + call.above.length

section Calls

variable {field : Field} {members : List String} {call : Call}
  (closed : ∀ node, ∀ next ∈ field.successors node, next ∈ members)

namespace Entered

theorem off (entered : Entered field members call) : call.node ∉ call.above := fun found =>
  entered.fresh (entered.guarded.onPath call.node found)

/-- The nodes of a path are distinct, so there is depth left. -/
theorem exists_depth (entered : Entered field members call) : ∃ depth, call.depth = depth + 1 := by
  have distinct : (call.node :: call.above).Nodup := List.nodup_cons.mpr ⟨entered.off, entered.distinct⟩
  have inside : call.node :: call.above ⊆ members := List.cons_subset.mpr ⟨entered.member, entered.inside⟩
  have bound := (distinct.subperm inside).length_le
  have enough := entered.enough
  rw [List.length_cons] at bound
  exact ⟨call.depth - 1, by omega⟩

theorem deeper (entered : Entered field members call) {depth : Nat} (depthLeft : call.depth = depth + 1)
    {next : String} {s : State} (guarded : Guarded field (call.node :: call.above) s)
    (untruncated : s.truncated = false) (fresh : next ∉ s.blocked) (member : next ∈ members) :
    Entered field members ⟨depth, next, call.node :: call.above, s⟩ where
  guarded := guarded
  untruncated := untruncated
  fresh := fresh
  member := member
  distinct := List.nodup_cons.mpr ⟨entered.off, entered.distinct⟩
  inside := List.cons_subset.mpr ⟨entered.member, entered.inside⟩
  enough := by
    have enough := entered.enough
    change members.length < depth + (call.above.length + 1)
    omega

include closed

theorem searches (entered : Entered field members call) :
    Searches field call.depth call.node call.above call.state :=
  search_searches closed entered.guarded entered.untruncated entered.fresh entered.member entered.distinct
    entered.inside entered.enough

/-- Between two steps of a call the invariant of its path holds, unless the report is cut. -/
theorem guarded_after (entered : Entered field members call) {depth : Nat} (depthLeft : call.depth = depth + 1)
    {steps : List String} (inside : ∀ next ∈ steps, next ∈ members)
    (untruncated : (call.after field depth steps).2.truncated = false) :
    Guarded field (call.node :: call.above) (call.after field depth steps).2 := by
  have run : ∀ (next : String) (s : State), Guarded field (call.node :: call.above) s → s.truncated = false →
      next ∉ s.blocked → next ∈ members → Searches field depth next (call.node :: call.above) s :=
    fun next s guarded uncut fresh member => (entered.deeper depthLeft guarded uncut fresh member).searches closed
  have followed := (foldl_follow_follows run inside false (entered.guarded.block call.node)
    entered.untruncated).1
  exact followed.guarded untruncated

theorem of_leadsTo {first : Call} (entered : Entered field members first) (leads : LeadsTo field first call) :
    Entered field members call := by
  induction leads with
  | self => exact entered
  | @next call depth earlier later next _ depthLeft split untruncated _ fresh ih =>
    have inside : ∀ other ∈ earlier ++ next :: later, other ∈ members := split ▸ closed call.node
    have before : ∀ other ∈ earlier, other ∈ members := fun other member =>
      inside other (List.mem_append_left _ member)
    exact ih.deeper depthLeft (ih.guarded_after closed depthLeft before untruncated) untruncated fresh
      (inside next (List.mem_append_right _ List.mem_cons_self))

end Entered

theorem Preserves.report (s : State) (bound : Nat) (circuit : List String) :
    Preserves s (s.report bound circuit).2 := by
  unfold State.report
  split <;> exact ⟨fun _ blocked => blocked, fun _ _ _ waits => waits⟩

/-- Whether or not a circuit was reported behind a node, leaving it touches nothing that was blocked before. -/
theorem leaveNode_preserves {node : String} {above : List String} {s : State} {state : Bool × State}
    (guarded : Guarded field above s) (fresh : node ∉ s.blocked) (preserves : Preserves (s.block node) state.2) :
    Preserves s (leaveNode field node state).2 := by
  have since := (Preserves.block s node).trans preserves
  have entered : node ∈ state.2.blocked := preserves.blocked node (NameSet.mem_insert.mpr (Or.inl rfl))
  unfold leaveNode
  split
  · exact guarded.preserves_unblock since fresh entered
  · exact since.waitFor fresh (field.successors node)

section Steps

variable {path : List String} {depth : Nat}
  (run : ∀ (next : String) (s : State), Guarded field path s → s.truncated = false → next ∉ s.blocked →
    next ∈ members → Searches field depth next path s ∧ Preserves s (search field depth next path s).2)

include run

theorem follow_preserves {next : String} (member : next ∈ members) (found : Bool) {s : State}
    (guarded : Guarded field path s) : Preserves s (follow field depth path (found, s) next).2 := by
  unfold follow
  cases untruncated : s.truncated with
  | true => exact .refl s
  | false =>
    simp only [Bool.false_eq_true, if_false]
    split
    · exact .report s field.bound path.reverse
    split
    · exact .refl s
    · next free =>
      have fresh : next ∉ s.blocked := fun blocked => free (Std.ExtTreeSet.contains_iff_mem.mpr blocked)
      exact (run next s guarded untruncated fresh member).2

theorem foldl_follow_preserves {steps : List String} (inside : ∀ next ∈ steps, next ∈ members) (found : Bool)
    {s : State} (guarded : Guarded field path s) (untruncated : s.truncated = false) :
    Preserves s (steps.foldl (follow field depth path) (found, s)).2 := by
  induction steps generalizing found s with
  | nil => exact .refl s
  | cons next rest ih =>
    have member := inside next List.mem_cons_self
    have first := follow_preserves run member found guarded
    rw [List.foldl_cons]
    cases cut : (follow field depth path (found, s) next).2.truncated with
    | true =>
      rw [foldl_follow_truncated cut]
      exact first
    | false =>
      have followed := (follow_follows (fun next s guarded uncut fresh member =>
        (run next s guarded uncut fresh member).1) member found guarded untruncated).1
      exact first.trans (ih (fun other later => inside other (List.mem_cons_of_mem next later))
        (follow field depth path (found, s) next).1 (followed.guarded cut) cut)

end Steps

include closed

/-- A search leaves alone what was blocked before it, also when the report is cut while it goes on. -/
theorem search_preserves {depth : Nat} {node : String} {above : List String} {s : State}
    (entered : Entered field members ⟨depth, node, above, s⟩) :
    Preserves s (search field depth node above s).2 := by
  induction depth generalizing node above s with
  | zero => exact .refl s
  | succ depth ih =>
    rw [search_succ]
    refine leaveNode_preserves entered.guarded entered.fresh ?_
    refine foldl_follow_preserves ?_ (closed node) false (entered.guarded.block node) entered.untruncated
    intro next t guarded uncut fresh member
    have deeper := entered.deeper rfl guarded uncut fresh member
    exact ⟨deeper.searches closed, ih deeper⟩

theorem Entered.preserves_leaving (entered : Entered field members call) {depth : Nat}
    (depthLeft : call.depth = depth + 1) : Preserves call.state (call.leaving field depth).2 := by
  refine (Preserves.block call.state call.node).trans
    (foldl_follow_preserves ?_ (closed call.node) false (entered.guarded.block call.node) entered.untruncated)
  intro next t guarded uncut fresh member
  have deeper := entered.deeper depthLeft guarded uncut fresh member
  exact ⟨deeper.searches closed, search_preserves closed deeper⟩

/-- What is unblocked when a node is left is not on the path above it. -/
theorem Entered.path_stays_blocked (entered : Entered field members call) {depth : Nat}
    (depthLeft : call.depth = depth + 1) {name : String} (onPath : name ∈ call.above) :
    name ∈ (call.leaving field depth).2.blocked ∧
      name ∈ ((call.leaving field depth).2.unblock call.node).blocked := by
  have preserves := entered.preserves_leaving closed depthLeft
  have before := entered.guarded.onPath name onPath
  have still := preserves.blocked name before
  refine ⟨still, State.mem_blocked_unblock.mpr ⟨still, fun released => ?_⟩⟩
  exact entered.guarded.not_released preserves entered.fresh released before

end Calls

/-- What the search that `fromStart` begins may use. -/
def startField (graph : Adjacency) (members : List String) (start : String) (bound : Nat) : Field :=
  ⟨successorsWithin graph members start, start, bound⟩

/-- The call that `fromStart` makes when some circuits have been found before. -/
def startCall (members : List String) (start : String) (circuits : List (List String)) : Call :=
  ⟨members.length + 1, start, [], { circuits }⟩

theorem entered_startCall {members : List String} {start : String} (member : start ∈ members) (field : Field)
    (circuits : List (List String)) : Entered field members (startCall members start circuits) where
  guarded := .start field circuits
  untruncated := rfl
  fresh := Std.ExtTreeSet.not_mem_empty
  member := member
  distinct := .nil
  inside := List.nil_subset _
  enough := Nat.lt_succ_self _

/-- A call has the depth that it needs to leave its node as it should, and whether or not the node is unblocked
then, the path above it is blocked and stays so. -/
def Call.KeepsPath (field : Field) (call : Call) : Prop :=
  ∃ depth, call.depth = depth + 1 ∧
    search field call.depth call.node call.above call.state =
      leaveNode field call.node (call.leaving field depth) ∧
    ∀ name ∈ call.above, name ∈ (call.leaving field depth).2.blocked ∧
      name ∈ ((call.leaving field depth).2.unblock call.node).blocked

end CodeSurvey.Circuits
