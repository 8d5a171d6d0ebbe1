import Mathlib.Data.List.Perm.Subperm
import CodeSurvey.Graph.Circuits
import CodeSurvey.Proofs.NameMap

namespace CodeSurvey

theorem NameSet.size_le_of_subset {small large : NameSet} (inside : ∀ name ∈ small, name ∈ large) :
    small.size ≤ large.size := by
  have distinct : small.toList.Nodup := small.toList_ascending.imp fun before => before.ne
  have subset : small.toList ⊆ large.toList := fun name member =>
    Std.ExtTreeSet.mem_toList.mpr (inside name (Std.ExtTreeSet.mem_toList.mp member))
  simpa only [Std.ExtTreeSet.length_toList] using (distinct.subperm subset).length_le

namespace Circuits.State

variable {s t u : State} {node other : String}

theorem mem_waiters : other ∈ s.waiters node ↔ ∃ set, s.waiting[node]? = some set ∧ other ∈ set :=
  NameMap.mem_elements_iff

theorem mem_blocked_clear : other ∈ (s.clear node).blocked ↔ other ≠ node ∧ other ∈ s.blocked :=
  NameSet.mem_erase

theorem waiters_clear_self (s : State) (node : String) : (s.clear node).waiters node = [] := by
  simp only [waiters, clear, Std.ExtTreeMap.get?_eq_getElem?, NameMap.getElem?_erase, if_true]

theorem waiters_clear_of_ne (different : other ≠ node) :
    (s.clear node).waiters other = s.waiters other := by
  simp only [waiters, clear, Std.ExtTreeMap.get?_eq_getElem?, NameMap.getElem?_erase,
    if_neg different]

/-- The nodes that unblocking a node reaches: each next one is blocked and waits for one before. -/
inductive Released (s : State) (node : String) : String → Prop
  | self : Released s node node
  | next {waited waiter : String} : Released s node waited → waiter ∈ s.waiters waited →
      waiter ∈ s.blocked → Released s node waiter

theorem Released.trans {third : String} (first : Released s node other)
    (second : Released s other third) : Released s node third := by
  induction second with
  | self => exact first
  | next _ waits blocked ih => exact .next ih waits blocked

theorem Released.mono (released : Released t node other)
    (blocked : ∀ name ∈ t.blocked, name ∈ s.blocked)
    (waiters : ∀ name, ∀ waiter ∈ t.waiters name, waiter ∈ s.waiters name) :
    Released s node other := by
  induction released with
  | self => exact .self
  | next _ waits isBlocked ih => exact .next ih (waiters _ _ waits) (blocked _ isBlocked)

theorem Released.eq_or_blocked (released : Released s node other) :
    other = node ∨ other ∈ s.blocked := by
  cases released with
  | self => exact Or.inl rfl
  | next _ _ blocked => exact Or.inr blocked

/-- Some blocked nodes become free. Nothing waits for them any more, and what did wait is free too. -/
structure Frees (before after : State) : Prop where
  circuits : after.circuits = before.circuits
  truncated : after.truncated = before.truncated
  blocked : ∀ name ∈ after.blocked, name ∈ before.blocked
  kept : ∀ name, (name ∈ before.blocked → name ∈ after.blocked) →
    after.waiters name = before.waiters name
  cleared : ∀ name ∈ before.blocked, name ∉ after.blocked → after.waiters name = []
  closed : ∀ name ∈ before.blocked, name ∉ after.blocked →
    ∀ waiter ∈ before.waiters name, waiter ∉ after.blocked

namespace Frees

theorem refl (s : State) : Frees s s where
  circuits := rfl
  truncated := rfl
  blocked := fun _ member => member
  kept := fun _ _ => rfl
  cleared := fun _ member free => absurd member free
  closed := fun _ member free => absurd member free

theorem waiters_subset (frees : Frees s t) (name : String) {waiter : String}
    (waits : waiter ∈ t.waiters name) : waiter ∈ s.waiters name := by
  by_cases freed : name ∈ s.blocked ∧ name ∉ t.blocked
  · rw [frees.cleared name freed.1 freed.2] at waits
    simp at waits
  · rwa [frees.kept name fun member => Classical.not_not.mp fun free => freed ⟨member, free⟩] at waits

theorem trans (first : Frees s t) (second : Frees t u) : Frees s u where
  circuits := second.circuits.trans first.circuits
  truncated := second.truncated.trans first.truncated
  blocked := fun name member => first.blocked name (second.blocked name member)
  kept := by
    intro name stays
    have middle : name ∈ s.blocked → name ∈ t.blocked := fun member =>
      second.blocked name (stays member)
    rw [second.kept name fun member => stays (first.blocked name member), first.kept name middle]
  cleared := by
    intro name member free
    by_cases still : name ∈ t.blocked
    · exact second.cleared name still free
    · rw [second.kept name fun found => absurd found still]
      exact first.cleared name member still
  closed := by
    intro name member free waiter waits found
    by_cases still : name ∈ t.blocked
    · rw [← first.kept name fun _ => still] at waits
      exact second.closed name still free waiter waits found
    · exact first.closed name member still waiter waits (second.blocked waiter found)

end Frees

/-- The outcome of unblocking a node: it is cleared, what waits for it is free, and every other node
that became free was reached through waiting nodes. -/
structure Unblocks (before : State) (node : String) (after : State) : Prop where
  frees : Frees (before.clear node) after
  waitersFree : ∀ waiter ∈ before.waiters node, waiter ∉ after.blocked
  only : ∀ name ∈ before.blocked, name ∉ after.blocked → Released before node name

namespace Unblocks

theorem self_free (unblocks : Unblocks s node t) : node ∉ t.blocked := fun member =>
  (mem_blocked_clear.mp (unblocks.frees.blocked node member)).1 rfl

/-- For a node that is blocked, being cleared is one more node that becomes free. -/
theorem frees_of_mem (unblocks : Unblocks s node t) (member : node ∈ s.blocked) : Frees s t := by
  have frees := unblocks.frees
  have ofClear {name : String} (different : name ≠ node) (found : name ∈ s.blocked) :
      name ∈ (s.clear node).blocked := mem_blocked_clear.mpr ⟨different, found⟩
  refine ⟨frees.circuits, frees.truncated,
    fun name found => (mem_blocked_clear.mp (frees.blocked name found)).2, ?_, ?_, ?_⟩
  · intro name stays
    have different : name ≠ node := by
      rintro rfl
      exact unblocks.self_free (stays member)
    rw [frees.kept name fun found => stays (mem_blocked_clear.mp found).2, waiters_clear_of_ne different]
  · intro name found free
    by_cases same : name = node
    · subst same
      rw [frees.kept name fun cleared => absurd rfl (mem_blocked_clear.mp cleared).1, waiters_clear_self]
    · exact frees.cleared name (ofClear same found) free
  · intro name found free waiter waits
    by_cases same : name = node
    · exact unblocks.waitersFree waiter (same ▸ waits)
    · rw [← waiters_clear_of_ne same] at waits
      exact frees.closed name (ofClear same found) free waiter waits

theorem released_free (unblocks : Unblocks s node t) (released : Released s node other) :
    other ∉ t.blocked := by
  induction released with
  | self => exact unblocks.self_free
  | @next waited waiter earlier waits blocked ih =>
    by_cases same : waited = node
    · exact unblocks.waitersFree waiter (same ▸ waits)
    · have before : waited ∈ (s.clear node).blocked :=
        mem_blocked_clear.mpr ⟨same, earlier.eq_or_blocked.resolve_left same⟩
      rw [← waiters_clear_of_ne same] at waits
      exact unblocks.frees.closed waited before ih waiter waits

end Unblocks

/-- What a waiting node meets: it is unblocked if it is still blocked. -/
def release (depth : Nat) (s : State) (waiter : String) : State :=
  if s.blocked.contains waiter then unblockWithin depth waiter s else s

theorem unblockWithin_succ (depth : Nat) (node : String) (s : State) :
    unblockWithin (depth + 1) node s = (s.waiters node).foldl (release depth) (s.clear node) :=
  rfl

section Depth

variable {depth : Nat}
  (run : ∀ (s : State) (node : String), (s.clear node).blocked.size < depth →
    Unblocks s node (unblockWithin depth node s))

include run

theorem release_frees (waiter : String) (enough : s.blocked.size ≤ depth) :
    Frees s (release depth s waiter) ∧ waiter ∉ (release depth s waiter).blocked ∧
      ∀ name ∈ s.blocked, name ∉ (release depth s waiter).blocked →
        waiter ∈ s.blocked ∧ Released s waiter name := by
  unfold release
  split
  · rename_i found
    have member := Std.ExtTreeSet.contains_iff_mem.mp found
    have unblocks := run s waiter (Nat.lt_of_lt_of_le (NameSet.size_erase_of_mem member) enough)
    exact ⟨unblocks.frees_of_mem member, unblocks.self_free,
      fun name before free => ⟨member, unblocks.only name before free⟩⟩
  · rename_i missing
    exact ⟨.refl s, fun member => missing (Std.ExtTreeSet.contains_iff_mem.mpr member),
      fun name before free => absurd before free⟩

theorem foldl_release_frees (waiters : List String) (s : State) (enough : s.blocked.size ≤ depth) :
    Frees s (waiters.foldl (release depth) s) ∧
      (∀ waiter ∈ waiters, waiter ∉ (waiters.foldl (release depth) s).blocked) ∧
      ∀ name ∈ s.blocked, name ∉ (waiters.foldl (release depth) s).blocked →
        ∃ waiter ∈ waiters, waiter ∈ s.blocked ∧ Released s waiter name := by
  induction waiters generalizing s with
  | nil => exact ⟨.refl s, by simp, fun name before free => absurd before free⟩
  | cons waiter rest ih =>
    obtain ⟨first, waiterFree, firstOnly⟩ := release_frees run waiter enough
    have smaller := NameSet.size_le_of_subset first.blocked
    obtain ⟨later, restFree, laterOnly⟩ := ih (release depth s waiter) (smaller.trans enough)
    rw [List.foldl_cons]
    refine ⟨first.trans later, ?_, ?_⟩
    · intro name member
      rcases List.mem_cons.mp member with rfl | member
      · exact fun found => waiterFree (later.blocked name found)
      · exact restFree name member
    · intro name before free
      by_cases middle : name ∈ (release depth s waiter).blocked
      · obtain ⟨source, member, blocked, released⟩ := laterOnly name middle free
        exact ⟨source, List.mem_cons_of_mem _ member, first.blocked source blocked,
          released.mono first.blocked fun name _ waits => first.waiters_subset name waits⟩
      · obtain ⟨blocked, released⟩ := firstOnly name before middle
        exact ⟨waiter, List.mem_cons_self .., blocked, released⟩

end Depth

theorem unblockWithin_unblocks {depth : Nat} {s : State} {node : String}
    (enough : (s.clear node).blocked.size < depth) :
    Unblocks s node (unblockWithin depth node s) := by
  induction depth generalizing s node with
  | zero => omega
  | succ depth ih =>
    rw [unblockWithin_succ]
    obtain ⟨frees, waitersFree, only⟩ :=
      foldl_release_frees (fun _ _ => ih) (s.waiters node) (s.clear node) (by omega)
    refine ⟨frees, waitersFree, ?_⟩
    intro name before free
    by_cases same : name = node
    · exact same ▸ .self
    · obtain ⟨waiter, waits, blocked, released⟩ :=
        only name (mem_blocked_clear.mpr ⟨same, before⟩) free
      have first : Released s node waiter := .next .self waits (mem_blocked_clear.mp blocked).2
      refine first.trans (released.mono (fun _ member => (mem_blocked_clear.mp member).2) ?_)
      intro waited waiter waits
      by_cases cleared : waited = node
      · rw [cleared, waiters_clear_self] at waits
        simp at waits
      · rwa [waiters_clear_of_ne cleared] at waits

/-- The number of blocked nodes is enough depth, whether or not the node itself is blocked. -/
theorem unblock_unblocks (s : State) (node : String) : Unblocks s node (s.unblock node) :=
  unblockWithin_unblocks (Nat.lt_succ_of_le
    (NameSet.size_le_of_subset fun _ member => (mem_blocked_clear.mp member).2))

theorem mem_blocked_unblock :
    other ∈ (s.unblock node).blocked ↔ other ∈ s.blocked ∧ ¬ Released s node other := by
  have unblocks := s.unblock_unblocks node
  constructor
  · intro member
    exact ⟨(mem_blocked_clear.mp (unblocks.frees.blocked other member)).2,
      fun released => unblocks.released_free released member⟩
  · rintro ⟨before, unreleased⟩
    by_contra free
    exact unreleased (unblocks.only other before free)

end Circuits.State

end CodeSurvey
