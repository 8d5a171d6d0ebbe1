import CodeSurvey.Metrics
import CodeSurvey.Proofs.Balance

namespace CodeSurvey

namespace Ranking

variable {α : Type} {count : α → Nat} {name : α → String}

/-- Whether an item has to stand before another: the greater count first, then the lesser name. -/
def Outranks (count : α → Nat) (name : α → String) (item other : α) : Prop :=
  count other < count item ∨ count item = count other ∧ name item < name other

theorem before_iff {item other : α} :
    before count name item other ↔
      count other < count item ∨ count item = count other ∧ name item ≤ name other := by
  rw [before, Ordering.isLE_then_iff_or, compare_lt_iff_lt, Std.compare_eq_iff_eq, Ordering.isLE_iff_ne_gt,
    ← Ne, compare_le_iff_le, eq_comm]

theorem before_trans {first second third : α} (forth : before count name first second)
    (further : before count name second third) : before count name first third := by
  rw [before_iff] at forth further ⊢
  rcases forth with greater | ⟨same, lesser⟩
  · left
    rcases further with greater' | ⟨same', _⟩ <;> omega
  · rcases further with greater' | ⟨same', lesser'⟩
    · left
      omega
    · exact Or.inr ⟨same.trans same', lesser.trans lesser'⟩

theorem before_total (item other : α) : before count name item other || before count name other item := by
  rw [Bool.or_eq_true, before_iff, before_iff]
  rcases Nat.lt_trichotomy (count item) (count other) with less | same | more
  · exact Or.inr (Or.inl less)
  · rcases le_total (name item) (name other) with lesser | lesser
    · exact Or.inl (Or.inr ⟨same, lesser⟩)
    · exact Or.inr (Or.inr ⟨same.symm, lesser⟩)
  · exact Or.inl (Or.inl more)

theorem outranks_of_before {item other : α} (before : before count name item other)
    (different : name item ≠ name other) : Outranks count name item other := by
  rcases before_iff.mp before with greater | ⟨same, lesser⟩
  · exact Or.inl greater
  · exact Or.inr ⟨same, lesser.lt_of_ne different⟩

theorem sort_perm (count : α → Nat) (name : α → String) (items : List α) :
    (sort count name items).Perm items :=
  List.mergeSort_perm items _

/-- Where no name comes twice, each item outranks all that follow it. -/
theorem sort_outranks (count : α → Nat) {items : List α} (distinct : (items.map name).Nodup) :
    (sort count name items).Pairwise (Outranks count name) := by
  have ordered : (sort count name items).Pairwise fun item other => before count name item other :=
    List.pairwise_mergeSort (fun _ _ _ => before_trans) before_total items
  have different : ((sort count name items).map name).Nodup :=
    ((sort_perm count name items).map name).nodup_iff.mpr distinct
  refine List.Pairwise.imp₂ ?_ ordered (List.pairwise_map.mp different)
  exact fun _ _ => outranks_of_before

/-- The first `limit` items of a ranking of some candidates. -/
structure IsTop (count : α → Nat) (name : α → String) (candidates : List α) (limit : Nat) (listed : List α) :
    Prop where
  ordered : listed.Pairwise (Outranks count name)
  length : listed.length = min limit candidates.length
  chosen : ∀ item ∈ listed, item ∈ candidates
  /-- no candidate that is left out outranks one that is listed -/
  cut : ∀ item ∈ candidates, item ∉ listed → ∀ kept ∈ listed, Outranks count name kept item

theorem isTop_take_sort (count : α → Nat) {candidates : List α} (distinct : (candidates.map name).Nodup)
    (limit : Nat) :
    IsTop count name candidates limit ((sort count name candidates).take limit) := by
  have perm := sort_perm count name candidates
  have ordered := sort_outranks count distinct
  refine ⟨ordered.sublist (List.take_sublist _ _), ?_, fun item listed => ?_,
    fun item candidate out kept listed => ?_⟩
  · rw [List.length_take, perm.length_eq]
  · exact perm.mem_iff.mp (List.mem_of_mem_take listed)
  · rw [← List.take_append_drop limit (sort count name candidates)] at ordered
    have ranked : item ∈ sort count name candidates := perm.mem_iff.mpr candidate
    rw [← List.take_append_drop limit (sort count name candidates), List.mem_append] at ranked
    exact (List.pairwise_append.mp ordered).2.2 kept listed item (ranked.resolve_left out)

end Ranking

theorem NameMap.nodup_names_toList {α : Type} (map : NameMap α) : (map.toList.map Prod.fst).Nodup :=
  List.pairwise_map.mpr (map.toList_ascending.imp fun before => before.ne)

open Ranking

namespace DependencyGraph

/-- An entity that is used, with the number of its uses. -/
def IsUsed (graph : DependencyGraph) (entry : String × Nat) : Prop :=
  graph.usageCounts[entry.1]? = some entry.2 ∧ 0 < entry.2

/-- The first `limit` of the entities that are used, by the number of their uses. -/
structure RanksUsed (graph : DependencyGraph) (limit : Nat) (listed : List (String × Nat)) : Prop where
  ordered : listed.Pairwise (Outranks Prod.snd Prod.fst)
  length : listed.length = min limit (graph.usageCounts.values.countP (0 < ·))
  used : ∀ entry ∈ listed, graph.IsUsed entry
  cut : ∀ entry, graph.IsUsed entry → entry ∉ listed → ∀ kept ∈ listed, Outranks Prod.snd Prod.fst kept entry

/-- All methods that are called, by the number of their calls. -/
structure RanksCalled (graph : DependencyGraph) (listed : List MethodUsage) : Prop where
  ordered : listed.Pairwise (Outranks MethodUsage.callCount MethodUsage.method)
  once : (listed.map (·.method)).Perm graph.callCounts.keys
  calls : ∀ usage ∈ listed, graph.callCounts[usage.method]? = some usage.callCount
  callers : ∀ usage ∈ listed, usage.callers = graph.callers[usage.method]?.getD ∅

theorem mem_filter_usageCounts {graph : DependencyGraph} {entry : String × Nat} :
    entry ∈ graph.usageCounts.toList.filter (fun e => 0 < e.2) ↔ graph.IsUsed entry := by
  rw [List.mem_filter, Std.ExtTreeMap.mem_toList_iff_getElem?_eq_some, decide_eq_true_iff, IsUsed]

theorem mostUsed_ranks (graph : DependencyGraph) (limit : Nat) :
    graph.RanksUsed limit (graph.mostUsed limit) := by
  have distinct : ((graph.usageCounts.toList.filter fun e => 0 < e.2).map Prod.fst).Nodup :=
    graph.usageCounts.nodup_names_toList.sublist (List.filter_sublist.map _)
  obtain ⟨ordered, length, chosen, cut⟩ := isTop_take_sort Prod.snd distinct limit
  refine ⟨ordered, ?_, fun entry listed => mem_filter_usageCounts.mp (chosen entry listed),
    fun entry used => cut entry (mem_filter_usageCounts.mpr used)⟩
  rw [NameMap.values_eq_map_toList, List.countP_map, List.countP_eq_length_filter]
  exact length

theorem methodUsage_ranks (graph : DependencyGraph) : graph.RanksCalled graph.methodUsage := by
  let usage (entry : String × Nat) : MethodUsage :=
    ⟨entry.1, entry.2, graph.callers.getD entry.1 ∅, .classify entry.2⟩
  have perm : graph.methodUsage.Perm (graph.callCounts.toList.map usage) := sort_perm _ _ _
  have names : (graph.callCounts.toList.map usage).map (·.method) = graph.callCounts.toList.map Prod.fst :=
    List.map_map
  have recorded {listed : MethodUsage} (member : listed ∈ graph.methodUsage) :
      ∃ entry ∈ graph.callCounts.toList, usage entry = listed :=
    List.mem_map.mp (perm.mem_iff.mp member)
  refine ⟨sort_outranks _ ?_, ?_, fun listed member => ?_, fun listed member => ?_⟩
  · exact names ▸ graph.callCounts.nodup_names_toList
  · rw [← Std.ExtTreeMap.map_fst_toList_eq_keys, ← names]
    exact perm.map _
  · obtain ⟨entry, counted, rfl⟩ := recorded member
    exact Std.ExtTreeMap.mem_toList_iff_getElem?_eq_some.mp counted
  · obtain ⟨entry, counted, rfl⟩ := recorded member
    exact Std.ExtTreeMap.getD_eq_getD_getElem?

end DependencyGraph

namespace CouplingReport

/-- All keys of a graph with more than `threshold` of the keys among their targets, by the number of these. -/
structure RanksCoupled (graph : Adjacency) (threshold : Nat) (listed : List (String × Nat)) : Prop where
  ordered : listed.Pairwise (Outranks Prod.snd Prod.fst)
  exceeding : ∀ name efferent, (name, efferent) ∈ listed ↔
    name ∈ graph ∧ efferent = (graph.targets name).countP (· ∈ graph) ∧ threshold < efferent

/-- The record of a key: its name, and how many of its targets are keys. -/
theorem exists_value_iff {graph : Adjacency} {config : CouplingConfig} {name : String} {efferent : Nat} :
    (∃ coupling ∈ (ofGraph graph config).entities.values, coupling.entity = name ∧
        coupling.efferent = efferent) ↔
      name ∈ graph ∧ efferent = (graph.targets name).countP (· ∈ graph) := by
  have counted (name : String) : (graph.targets name).countP graph.contains =
      (graph.targets name).countP (· ∈ graph) := List.countP_congr fun target _ => by simp
  rw [values_entities]
  constructor
  · rintro ⟨coupling, listed, rfl, rfl⟩
    obtain ⟨key, isKey, rfl⟩ := List.mem_map.mp listed
    exact ⟨Std.ExtTreeMap.mem_keys.mp isKey, counted key⟩
  · rintro ⟨isKey, rfl⟩
    exact ⟨_, List.mem_map_of_mem (Std.ExtTreeMap.mem_keys.mpr isKey), rfl, counted name⟩

theorem nodup_names_values (graph : Adjacency) (config : CouplingConfig) :
    ((ofGraph graph config).entities.values.map Coupling.entity).Nodup := by
  have names : (ofGraph graph config).entities.values.map Coupling.entity = graph.keys := by
    rw [values_entities, List.map_map]
    exact List.map_id'' (fun _ => rfl) _
  rw [names]
  exact (NameMap.keys_ascending graph).imp fun before => before.ne

theorem highCoupling_ranks (graph : Adjacency) (config : CouplingConfig) :
    RanksCoupled graph config.highCouplingThreshold (ofGraph graph config).highCoupling := by
  let exceeds (coupling : Coupling) : Bool := config.highCouplingThreshold < coupling.efferent
  let high := (ofGraph graph config).entities.values.filter exceeds
  have listing : (ofGraph graph config).highCoupling =
      (sort Coupling.efferent Coupling.entity high).map fun c => (c.entity, c.efferent) := rfl
  have distinct : (high.map Coupling.entity).Nodup :=
    (nodup_names_values graph config).sublist (List.filter_sublist.map _)
  rw [listing]
  refine ⟨List.pairwise_map.mpr (sort_outranks _ distinct), fun name efferent => ?_⟩
  rw [← and_assoc, ← exists_value_iff, List.mem_map]
  constructor
  · rintro ⟨coupling, listed, same⟩
    obtain ⟨rfl, rfl⟩ := Prod.mk.inj same
    obtain ⟨value, above⟩ := List.mem_filter.mp ((sort_perm _ _ high).mem_iff.mp listed)
    exact ⟨⟨coupling, value, rfl, rfl⟩, of_decide_eq_true above⟩
  · rintro ⟨⟨coupling, value, rfl, rfl⟩, above⟩
    have kept : coupling ∈ high := List.mem_filter.mpr ⟨value, decide_eq_true above⟩
    exact ⟨coupling, (sort_perm _ _ high).mem_iff.mpr kept, rfl⟩

end CouplingReport

/-- Every ranked list holds what it should, in the order of its counts and then of its names, and is cut only
behind what outranks the rest. -/
theorem rankings_are_complete (graph : DependencyGraph) (limit : Nat) (config : CouplingConfig) :
    graph.RanksUsed limit (graph.mostUsed limit) ∧ graph.RanksCalled graph.methodUsage ∧
      CouplingReport.RanksCoupled graph.classDependencies config.highCouplingThreshold
        (CouplingReport.ofGraph graph.classDependencies config).highCoupling :=
  ⟨graph.mostUsed_ranks limit, graph.methodUsage_ranks, CouplingReport.highCoupling_ranks _ config⟩

end CodeSurvey
