import CodeSurvey.Proofs.Graph.Component
import CodeSurvey.Proofs.Graph.Search

namespace CodeSurvey.Circuits

open Adjacency

/-- A path that goes on from a node and comes back to the start, off the nodes above. -/
inductive WayBack (field : Field) : String → List String → List String → Prop
  | close {node above} : field.start ∈ field.successors node → WayBack field node above []
  | step {node above next onward} : next ∈ field.successors node → next ≠ field.start →
      next ∉ node :: above → WayBack field next (node :: above) onward →
      WayBack field node above (next :: onward)

/-- The plain search lists exactly these paths, as far as its depth goes. -/
theorem mem_waysBack {field : Field} {depth : Nat} {node : String} {above circuit : List String} :
    circuit ∈ waysBack field depth node above ↔ ∃ onward, WayBack field node above onward ∧
      onward.length < depth ∧ circuit = above.reverse ++ node :: onward := by
  induction depth generalizing node above with
  | zero => simp [waysBack]
  | succ depth ih =>
    rw [waysBack_succ, List.mem_flatMap]
    constructor
    · rintro ⟨next, step, member⟩
      unfold waysVia at member
      split at member
      · rename_i start
        refine ⟨[], .close (start ▸ step), Nat.succ_pos depth, ?_⟩
        rw [List.mem_singleton.mp member, List.reverse_cons]
      · rename_i notStart
        split at member
        · simp at member
        · rename_i fresh
          obtain ⟨onward, way, short, same⟩ := ih.mp member
          refine ⟨next :: onward, .step step notStart fresh way, Nat.succ_lt_succ short, ?_⟩
          rw [same, List.reverse_cons, List.append_assoc]
          rfl
    · rintro ⟨onward, way, short, same⟩
      cases way with
      | close returns =>
        refine ⟨field.start, returns, ?_⟩
        rw [waysVia, if_pos rfl, same, List.reverse_cons]
        exact List.mem_singleton_self _
      | @step _ _ next rest step notStart fresh way =>
        refine ⟨next, step, ?_⟩
        rw [waysVia, if_neg notStart, if_neg fresh]
        refine ih.mpr ⟨rest, way, Nat.lt_of_succ_lt_succ short, ?_⟩
        rw [same, List.reverse_cons, List.append_assoc]
        rfl

theorem wayBack_iff {field : Field} {node : String} {above onward : List String} :
    WayBack field node above onward ↔
      (node :: onward).IsChain (fun before next => next ∈ field.successors before) ∧
      (onward.Nodup ∧ ∀ next ∈ onward, next ≠ field.start ∧ next ∉ node :: above) ∧
      ∀ last ∈ (node :: onward).getLast?, field.start ∈ field.successors last := by
  induction onward generalizing node above with
  | nil =>
    constructor
    · rintro ⟨returns⟩
      exact ⟨.singleton _, ⟨.nil, by simp⟩, by simpa using returns⟩
    · rintro ⟨_, _, returns⟩
      exact .close (returns node rfl)
  | cons next rest ih =>
    rw [List.isChain_cons_cons, List.nodup_cons, List.getLast?_cons_cons]
    constructor
    · intro way
      cases way with
      | step step notStart fresh later =>
        obtain ⟨chain, ⟨distinct, off⟩, returns⟩ := ih.mp later
        refine ⟨⟨step, chain⟩, ⟨⟨fun member => (off next member).2 (List.mem_cons_self ..), distinct⟩, ?_⟩,
          returns⟩
        intro other member
        rcases List.mem_cons.mp member with rfl | member
        · exact ⟨notStart, fresh⟩
        · exact ⟨(off other member).1, fun found => (off other member).2 (List.mem_cons_of_mem _ found)⟩
    · rintro ⟨⟨step, chain⟩, ⟨⟨unique, distinct⟩, off⟩, returns⟩
      obtain ⟨notStart, fresh⟩ := off next (List.mem_cons_self ..)
      refine .step step notStart fresh (ih.mpr ⟨chain, ⟨distinct, ?_⟩, returns⟩)
      intro other member
      obtain ⟨otherNotStart, otherFresh⟩ := off other (List.mem_cons_of_mem _ member)
      refine ⟨otherNotStart, fun found => ?_⟩
      rcases List.mem_cons.mp found with rfl | found
      · exact unique member
      · exact otherFresh found

/-- Steps in ascending order give paths in lexicographic order. The start comes first among the steps,
so a path that closes comes before those that go on from it. -/
theorem waysBack_ascending {field : Field}
    (ascending : ∀ node, (field.successors node).Pairwise (· < ·))
    (above : ∀ node, ∀ next ∈ field.successors node, field.start ≤ next) (depth : Nat)
    (node : String) (path : List String) : (waysBack field depth node path).Pairwise (· < ·) := by
  induction depth generalizing node path with
  | zero => exact .nil
  | succ depth ih =>
    rw [waysBack_succ, List.pairwise_flatMap]
    constructor
    · intro next _
      unfold waysVia
      split
      · exact List.pairwise_singleton _ _
      · split
        · exact .nil
        · exact ih next (node :: path)
    · refine (ascending node).imp_of_mem ?_
      intro next later step _ before circuit member other otherMember
      have notStart : later ≠ field.start := ((above node next step).trans_lt before).ne'
      rw [waysVia, if_neg notStart] at otherMember
      split at otherMember
      · simp at otherMember
      · obtain ⟨onward, _, _, rfl⟩ := mem_waysBack.mp otherMember
        unfold waysVia at member
        split at member
        · have longer : (node :: path).reverse ++ [] < (node :: path).reverse ++ later :: onward :=
            List.append_left_lt (List.nil_lt_cons later onward)
          rw [List.append_nil] at longer
          rwa [List.mem_singleton.mp member]
        · split at member
          · simp at member
          · obtain ⟨rest, _, _, rfl⟩ := mem_waysBack.mp member
            exact List.append_left_lt (List.Lex.rel before)

theorem mem_successorsWithin {graph : Adjacency} {members : List String} {start node next : String} :
    next ∈ successorsWithin graph members start node ↔
      graph.Edge node next ∧ next ∈ members ∧ start ≤ next ∧ next ≠ node := by
  simp only [successorsWithin, List.mem_filter, Bool.and_eq_true, List.contains_iff_mem,
    Bool.not_eq_true', decide_eq_false_iff_not, bne_iff_ne, not_lt, and_assoc]
  rfl

/-- The ground of a search does not depend on how many circuits may be reported. -/
theorem waysBack_bound (successors : String → List String) (start : String) (bound other depth : Nat)
    (node : String) (above : List String) :
    waysBack ⟨successors, start, bound⟩ depth node above =
      waysBack ⟨successors, start, other⟩ depth node above := by
  induction depth generalizing node above with
  | zero => rfl
  | succ depth ih => simp only [waysBack, ih]

/-- All circuits of a component from one node on. -/
def circuitsFrom (graph : Adjacency) (members : List String) (start : String) : List (List String) :=
  waysBack ⟨successorsWithin graph members start, start, 0⟩ (members.length + 1) start []

/-- All circuits of a component. -/
def circuitsWithin (graph : Adjacency) (members : List String) : List (List String) :=
  members.flatMap (circuitsFrom graph members)

/-- The complete list: no node is blocked and there is no bound. -/
def listing (graph : Adjacency) : List (List String) :=
  (graph.components.filter fun members => 1 < members.length).flatMap (circuitsWithin graph)

theorem fromStart_eq_foldl {graph : Adjacency} {members : List String} {start : String}
    (member : start ∈ members) (bound : Nat) (found : List (List String) × Bool) :
    fromStart graph members bound found start =
      (circuitsFrom graph members start).foldl (offer bound) found := by
  obtain ⟨circuits, truncated⟩ := found
  cases truncated with
  | true => rw [foldl_offer_truncated]; rfl
  | false =>
    let field : Field := ⟨successorsWithin graph members start, start, bound⟩
    have searched : Searches field (members.length + 1) start [] { circuits } :=
      search_searches (fun node next step => (mem_successorsWithin.mp step).2.1) (.start field circuits) rfl
        Std.ExtTreeSet.not_mem_empty member .nil (List.nil_subset _) (by simp)
    rw [circuitsFrom, waysBack_bound _ _ 0 bound]
    exact searched.follows.reported

theorem foldl_fromStart_eq_foldl (graph : Adjacency) (members : List String) (bound : Nat)
    (found : List (List String) × Bool) :
    members.foldl (fromStart graph members bound) found =
      (circuitsWithin graph members).foldl (offer bound) found := by
  have part : ∀ starts ⊆ members, ∀ found, starts.foldl (fromStart graph members bound) found =
      (starts.flatMap (circuitsFrom graph members)).foldl (offer bound) found := by
    intro starts inside
    induction starts with
    | nil => intro found; rfl
    | cons start rest ih =>
      obtain ⟨member, restInside⟩ := List.cons_subset.mp inside
      intro found
      rw [List.foldl_cons, List.flatMap_cons, List.foldl_append, fromStart_eq_foldl member, ih restInside]
  exact part members (List.Subset.refl _) found

/-- Taking circuits one by one up to a bound takes the beginning of the list. -/
theorem foldl_offer_eq (bound : Nat) (more circuits : List (List String))
    (room : circuits.length ≤ bound) :
    more.foldl (offer bound) (circuits, false) =
      ((more.take (bound - circuits.length)).reverse ++ circuits,
        decide (bound < circuits.length + more.length)) := by
  induction more generalizing circuits with
  | nil => simp [Nat.not_lt.mpr room]
  | cons circuit rest ih =>
    rw [List.foldl_cons]
    by_cases free : circuits.length < bound
    · have left : bound - circuits.length = bound - (circuits.length + 1) + 1 := by omega
      have count : circuits.length + 1 + rest.length = circuits.length + (rest.length + 1) := by omega
      have taken : offer bound (circuits, false) circuit = (circuit :: circuits, false) := by
        simp [offer, free]
      rw [taken, ih (circuit :: circuits) free, List.length_cons, List.length_cons, left, List.take_succ_cons,
        List.reverse_cons, List.append_assoc, count]
      rfl
    · have full : bound - circuits.length = 0 := by omega
      have refused : offer bound (circuits, false) circuit = (circuits, true) := by simp [offer, free]
      have more : bound < circuits.length + (circuit :: rest).length := by
        rw [List.length_cons]
        omega
      rw [refused, foldl_offer_truncated, full, List.take_zero, decide_eq_true more]
      rfl

/-- A bounded enumeration is the beginning of the complete list, cut if and only if that is longer. -/
theorem enumerate_eq_take (graph : Adjacency) (bound : Nat) :
    enumerate graph bound = ((listing graph).take bound, decide (bound < (listing graph).length)) := by
  unfold enumerate
  simp only [foldl_fromStart_eq_foldl, ← List.foldl_flatMap]
  rw [foldl_offer_eq bound _ [] (Nat.zero_le bound)]
  simp [listing]

/-- The circuits from a node on are the elementary ones of its component in which it is the least. -/
theorem mem_circuitsFrom {graph : Adjacency} {members : List String} (whole : graph.IsComponent members)
    {start : String} (member : start ∈ members) {circuit : List String} :
    circuit ∈ circuitsFrom graph members start ↔
      graph.IsCircuit circuit ∧ StartsLeast circuit ∧ circuit.head? = some start := by
  rw [circuitsFrom, mem_waysBack]
  simp only [wayBack_iff, mem_successorsWithin, List.reverse_nil, List.nil_append]
  constructor
  · rintro ⟨onward, ⟨chain, ⟨distinct, off⟩, returns⟩, _, rfl⟩
    have longer : onward ≠ [] := by
      rintro rfl
      exact (returns start rfl).2.2.2 rfl
    have above : ∀ next ∈ onward, start ≤ next :=
      chain.cons_induction (start ≤ ·) onward (fun _ _ step _ => step.2.2.1) le_rfl
    refine ⟨⟨?_, ?_, chain.imp fun _ _ step => step.1, ?_⟩, ⟨start, rfl, ?_⟩, rfl⟩
    · exact List.nodup_cons.mpr ⟨fun found => (off start found).1 rfl, distinct⟩
    · have := List.length_pos_of_ne_nil longer
      rw [List.length_cons]
      omega
    · intro last atLast first atFirst
      cases atFirst
      exact (returns last atLast).1
    · intro node found
      rcases List.mem_cons.mp found with rfl | found
      · exact le_rfl
      · exact above node found
  · rintro ⟨isCircuit, ⟨first, atFirst, below⟩, atStart⟩
    cases atFirst.symm.trans atStart
    obtain ⟨onward, rfl⟩ := List.head?_eq_some_iff.mp atStart
    obtain ⟨notAgain, distinct⟩ := List.nodup_cons.mp isCircuit.distinct
    have inside : start :: onward ⊆ members := fun node found =>
      (whole.whole start member node).mpr (isCircuit.linked (List.mem_cons_self ..) found)
    have short := (isCircuit.distinct.subperm inside).length_le
    refine ⟨onward, ⟨?_, ⟨distinct, ?_⟩, ?_⟩, ?_, rfl⟩
    · have different : (start :: onward).IsChain (· ≠ ·) := isCircuit.distinct.isChain
      have both := isChain_and isCircuit.steps different
      refine both.imp_of_mem_imp fun node next _ found step => ?_
      exact ⟨step.1, inside found, below next found, step.2.symm⟩
    · intro next found
      have different : next ≠ start := fun same => notAgain (same ▸ found)
      exact ⟨different, fun again => different (List.mem_singleton.mp again)⟩
    · intro last atLast
      refine ⟨isCircuit.closes last atLast start rfl, member, le_rfl, ?_⟩
      rintro rfl
      cases onward with
      | nil => simpa using isCircuit.several
      | cons next rest =>
        rw [List.getLast?_cons_cons] at atLast
        exact notAgain (List.mem_of_getLast? atLast)
    · rw [List.length_cons] at short
      omega

theorem mem_listing {graph : Adjacency} {circuit : List String} :
    circuit ∈ listing graph ↔ graph.IsCircuit circuit ∧ StartsLeast circuit := by
  simp only [listing, circuitsWithin, List.mem_flatMap, List.mem_filter, mem_components]
  constructor
  · rintro ⟨members, ⟨whole, _⟩, start, member, found⟩
    obtain ⟨isCircuit, least, _⟩ := (mem_circuitsFrom whole member).mp found
    exact ⟨isCircuit, least⟩
  · rintro ⟨isCircuit, least⟩
    obtain ⟨start, onward, rfl⟩ := List.exists_cons_of_ne_nil isCircuit.ne_nil
    have first : start ∈ start :: onward := List.mem_cons_self ..
    have key : start ∈ graph := isCircuit.source_mem first
    have whole := component_isComponent key
    have member : start ∈ component graph.closure start :=
      mem_component.mpr ⟨key, .refl graph start⟩
    have inside : start :: onward ⊆ component graph.closure start := fun node found =>
      mem_component.mpr ⟨key, isCircuit.linked first found⟩
    refine ⟨component graph.closure start, ⟨whole, ?_⟩, start, member,
      (mem_circuitsFrom whole member).mpr ⟨isCircuit, least, rfl⟩⟩
    have count := (isCircuit.distinct.subperm inside).length_le
    have several := isCircuit.several
    exact decide_eq_true (by omega)

theorem leastFirst_mem_listing {graph : Adjacency} {circuit : List String}
    (isCircuit : graph.IsCircuit circuit) : leastFirst circuit ∈ listing graph :=
  mem_listing.mpr ⟨isCircuit.leastFirst, leastFirst_startsLeast isCircuit.ne_nil⟩

/-- The least node of the strongly connected component that a circuit lies in. -/
def componentLeast (graph : Adjacency) (circuit : List String) : String :=
  (component graph.closure (circuit.headD "")).headD ""

theorem componentLeast_isLeast {graph : Adjacency} {circuit : List String}
    (isCircuit : graph.IsCircuit circuit) :
    IsLeast {node | ∃ member ∈ circuit, graph.Linked member node} (componentLeast graph circuit) := by
  obtain ⟨start, onward, rfl⟩ := List.exists_cons_of_ne_nil isCircuit.ne_nil
  have first : start ∈ start :: onward := List.mem_cons_self ..
  have key := isCircuit.source_mem first
  have whole := component_isComponent key
  obtain ⟨least, rest, split⟩ := List.exists_cons_of_ne_nil whole.nonempty
  have ascending := whole.ascending
  rw [split] at ascending
  simp only [componentLeast, List.headD_cons, split]
  constructor
  · exact ⟨start, first, (mem_component.mp (split ▸ List.mem_cons_self ..)).2⟩
  · rintro node ⟨member, found, linked⟩
    have inside : node ∈ component graph.closure start :=
      mem_component.mpr ⟨key, (isCircuit.linked first found).trans linked⟩
    rw [split] at inside
    rcases List.mem_cons.mp inside with rfl | later
    · exact le_rfl
    · exact ((List.pairwise_cons.mp ascending).1 node later).le

theorem componentLeast_mem_head {graph : Adjacency} {members circuit : List String}
    (whole : graph.IsComponent members) (found : circuit ∈ circuitsWithin graph members) :
    componentLeast graph circuit ∈ members.head? := by
  obtain ⟨start, member, found⟩ := List.mem_flatMap.mp found
  obtain ⟨_, _, atStart⟩ := (mem_circuitsFrom whole member).mp found
  obtain ⟨onward, rfl⟩ := List.head?_eq_some_iff.mp atStart
  obtain ⟨least, rest, split⟩ := List.exists_cons_of_ne_nil whole.nonempty
  rw [componentLeast, List.headD_cons, ← whole.eq_component member, split]
  rfl

/-- The order of the complete list: by the least nodes of the components, and within one component
lexicographic. -/
def Precedes (graph : Adjacency) (circuit other : List String) : Prop :=
  componentLeast graph circuit < componentLeast graph other ∨
    componentLeast graph circuit = componentLeast graph other ∧ circuit < other

theorem circuitsWithin_ascending {graph : Adjacency} {members : List String}
    (whole : graph.IsComponent members) : (circuitsWithin graph members).Pairwise (· < ·) := by
  rw [circuitsWithin, List.pairwise_flatMap]
  constructor
  · intro start _
    exact waysBack_ascending (fun node => (graph.targets_ascending node).filter _)
      (fun _ _ step => (mem_successorsWithin.mp step).2.2.1) _ _ _
  · refine whole.ascending.imp_of_mem ?_
    intro start later member laterMember before circuit found other otherFound
    obtain ⟨_, _, atStart⟩ := (mem_circuitsFrom whole member).mp found
    obtain ⟨_, _, atLater⟩ := (mem_circuitsFrom whole laterMember).mp otherFound
    obtain ⟨onward, rfl⟩ := List.head?_eq_some_iff.mp atStart
    obtain ⟨rest, rfl⟩ := List.head?_eq_some_iff.mp atLater
    exact List.Lex.rel before

theorem listing_ascending (graph : Adjacency) : (listing graph).Pairwise (Precedes graph) := by
  have whole {members : List String}
      (found : members ∈ graph.components.filter fun members => 1 < members.length) :
      graph.IsComponent members := mem_components.mp (List.mem_filter.mp found).1
  rw [listing, List.pairwise_flatMap]
  constructor
  · intro members found
    refine (circuitsWithin_ascending (whole found)).imp_of_mem ?_
    intro circuit other inside otherInside before
    have least := componentLeast_mem_head (whole found) inside
    have otherLeast := componentLeast_mem_head (whole found) otherInside
    exact Or.inr ⟨Option.mem_unique least otherLeast, before⟩
  · refine (graph.components_ascending.filter _).imp_of_mem ?_
    intro members others found othersFound before circuit inside other otherInside
    exact Or.inl (before _ (componentLeast_mem_head (whole found) inside) _
      (componentLeast_mem_head (whole othersFound) otherInside))

theorem listing_nodup (graph : Adjacency) : (listing graph).Nodup := by
  refine (listing_ascending graph).imp ?_
  rintro circuit _ precedes rfl
  rcases precedes with before | ⟨_, before⟩
  · exact lt_irrefl _ before
  · exact lt_irrefl _ before

/-- The complete list has one entry for each elementary cycle. -/
theorem ncard_elementaryCycles (graph : Adjacency) :
    graph.elementaryCycles.ncard = (listing graph).length := by
  have image : graph.elementaryCycles =
      Set.image (fun nodes : List String => (nodes : Cycle String)) (listing graph).toFinset := by
    ext cycle
    simp only [elementaryCycles, Set.mem_ofPred_eq, Set.mem_image, Finset.mem_coe, List.mem_toFinset]
    constructor
    · rintro ⟨nodes, isCircuit, rfl⟩
      exact ⟨leastFirst nodes, leastFirst_mem_listing isCircuit,
        Cycle.coe_eq_coe.mpr (leastFirst_isRotated nodes).symm⟩
    · rintro ⟨nodes, member, rfl⟩
      exact ⟨nodes, (mem_listing.mp member).1, rfl⟩
  have injective : Set.InjOn (fun nodes : List String => (nodes : Cycle String))
      (listing graph).toFinset := by
    intro nodes member others othersMember same
    simp only [Finset.mem_coe, List.mem_toFinset, mem_listing] at member othersMember
    exact member.2.eq_of_isRotated member.1.distinct (Cycle.coe_eq_coe.mp same) othersMember.2
  rw [image, injective.ncard_image, Set.ncard_coe_finset,
    List.toFinset_card_of_nodup (listing_nodup graph)]

/-- With room for all elementary cycles, the enumeration is the complete list. -/
theorem enumerate_of_room {graph : Adjacency} {bound : Nat}
    (room : graph.elementaryCycles.ncard ≤ bound) : enumerate graph bound = (listing graph, false) := by
  rw [ncard_elementaryCycles] at room
  rw [enumerate_eq_take, List.take_of_length_le room, decide_eq_false (Nat.not_lt.mpr room)]

theorem enumerate_eq_nil_iff {graph : Adjacency} {bound : Nat} (positive : 1 ≤ bound) :
    (enumerate graph bound).1 = [] ↔ ∀ nodes, ¬graph.IsCircuit nodes := by
  rw [enumerate_eq_take, List.take_eq_nil_iff, or_iff_right (Nat.one_le_iff_ne_zero.mp positive),
    List.eq_nil_iff_forall_not_mem]
  constructor
  · exact fun empty nodes isCircuit => empty _ (leastFirst_mem_listing isCircuit)
  · exact fun acyclic nodes member => acyclic nodes (mem_listing.mp member).1

/-- With room for all elementary cycles the enumeration is not cut, holds nothing but elementary
circuits from their least nodes on, and holds each elementary circuit once. -/
theorem enumerate_complete (graph : Adjacency) (bound : Nat)
    (room : graph.elementaryCycles.ncard ≤ bound) :
    (enumerate graph bound).2 = false ∧
      (∀ circuit ∈ (enumerate graph bound).1, graph.IsCircuit circuit ∧ StartsLeast circuit) ∧
      ∀ circuit, graph.IsCircuit circuit →
        (enumerate graph bound).1.count (leastFirst circuit) = 1 := by
  rw [enumerate_of_room room]
  refine ⟨rfl, fun circuit member => mem_listing.mp member, fun circuit isCircuit => ?_⟩
  exact List.count_eq_one_of_mem (listing_nodup graph) (leastFirst_mem_listing isCircuit)

/-- Three circuits that share a node, a node that depends on itself and a target that is no key. -/
def overlapping : Adjacency :=
  Std.ExtTreeMap.ofList [("a", Std.ExtTreeSet.ofList ["b", "c"]),
    ("b", Std.ExtTreeSet.ofList ["a", "b", "c"]), ("c", Std.ExtTreeSet.ofList ["a", "z"])]

theorem overlapping_room : overlapping.elementaryCycles.ncard ≤ 3 := by
  rw [ncard_elementaryCycles]
  decide +kernel

theorem enumerate_complete_overlapping :
    overlapping.elementaryCycles.ncard ≤ 3 ∧ overlapping.IsCircuit ["c", "a", "b"] ∧
      (enumerate overlapping 3).2 = false ∧
      (enumerate overlapping 3).1.count (leastFirst ["c", "a", "b"]) = 1 := by
  have isCircuit : overlapping.IsCircuit ["c", "a", "b"] := by decide +kernel
  obtain ⟨uncut, _, once⟩ := enumerate_complete overlapping 3 overlapping_room
  exact ⟨overlapping_room, isCircuit, uncut, once _ isCircuit⟩

/-- The complete list is strictly ordered by component and then lexicographically, and every bound
takes the beginning of it and reports a cut exactly when something is left. -/
theorem enumerate_cut (graph : Adjacency) (enough : Nat)
    (room : graph.elementaryCycles.ncard ≤ enough) :
    (∀ circuit ∈ (enumerate graph enough).1,
        IsLeast {node | ∃ member ∈ circuit, graph.Linked member node} (componentLeast graph circuit)) ∧
      (enumerate graph enough).1.Pairwise (Precedes graph) ∧
      ∀ bound, enumerate graph bound = ((enumerate graph enough).1.take bound,
        decide (bound < (enumerate graph enough).1.length)) := by
  rw [enumerate_of_room room]
  exact ⟨fun circuit member => componentLeast_isLeast (mem_listing.mp member).1,
    listing_ascending graph, enumerate_eq_take graph⟩

theorem enumerate_cut_overlapping :
    overlapping.elementaryCycles.ncard ≤ 3 ∧
      (enumerate overlapping 3).1 = [["a", "b"], ["a", "b", "c"], ["a", "c"]] ∧
      Precedes overlapping ["a", "b", "c"] ["a", "c"] ∧
      enumerate overlapping 2 = ([["a", "b"], ["a", "b", "c"]], true) ∧
      enumerate overlapping 0 = ([], true) := by
  have all : (enumerate overlapping 3).1 = [["a", "b"], ["a", "b", "c"], ["a", "c"]] := by
    decide +kernel
  obtain ⟨_, ascending, cut⟩ := enumerate_cut overlapping 3 overlapping_room
  rw [all] at ascending cut
  have last := (List.pairwise_cons.mp ascending).2
  exact ⟨overlapping_room, all, List.pairwise_pair.mp last, cut 2, cut 0⟩

end CodeSurvey.Circuits
