import Mathlib.Data.List.FinRange
import Mathlib.Data.Nat.Choose.Basic
import CodeSurvey.Duplication

namespace CodeSurvey

variable {α β : Type} {items others : List α}

theorem orderedPairs_map (f : α → β) (items : List α) :
    orderedPairs (items.map f) = (orderedPairs items).map (Prod.map f f) := by
  induction items with
  | nil => rfl
  | cons item rest ih =>
    rw [List.map_cons, orderedPairs, orderedPairs, ih, List.map_append, List.map_map, List.map_map]
    rfl

theorem mem_of_mem_orderedPairs {pair : α × α} (member : pair ∈ orderedPairs items) :
    pair.1 ∈ items ∧ pair.2 ∈ items := by
  induction items with
  | nil => cases member
  | cons item rest ih =>
    rcases List.mem_append.mp member with first | later
    · obtain ⟨other, inside, rfl⟩ := List.mem_map.mp first
      exact ⟨List.mem_cons_self .., List.mem_cons_of_mem _ inside⟩
    · obtain ⟨left, right⟩ := ih later
      exact ⟨List.mem_cons_of_mem _ left, List.mem_cons_of_mem _ right⟩

theorem orderedPairs_nodup (distinct : items.Nodup) : (orderedPairs items).Nodup := by
  induction items with
  | nil => exact .nil
  | cons item rest ih =>
    obtain ⟨fresh, restDistinct⟩ := List.nodup_cons.mp distinct
    have firsts : (rest.map (item, ·)).Nodup := restDistinct.map fun _ _ same => (Prod.mk.inj same).2
    refine List.nodup_append'.mpr ⟨firsts, ih restDistinct, ?_⟩
    intro pair first later
    obtain ⟨other, _, rfl⟩ := List.mem_map.mp first
    exact fresh (mem_of_mem_orderedPairs later).1

theorem mem_orderedPairs_iff_lt [LinearOrder α] (ascending : items.Pairwise (· < ·)) {pair : α × α} :
    pair ∈ orderedPairs items ↔ pair.1 ∈ items ∧ pair.2 ∈ items ∧ pair.1 < pair.2 := by
  induction items with
  | nil => simp [orderedPairs]
  | cons item rest ih =>
    obtain ⟨least, restAscending⟩ := List.pairwise_cons.mp ascending
    rw [orderedPairs, List.mem_append, ih restAscending]
    constructor
    · rintro (first | ⟨left, right, before⟩)
      · obtain ⟨other, inside, rfl⟩ := List.mem_map.mp first
        exact ⟨List.mem_cons_self .., List.mem_cons_of_mem _ inside, least other inside⟩
      · exact ⟨List.mem_cons_of_mem _ left, List.mem_cons_of_mem _ right, before⟩
    · rintro ⟨left, right, before⟩
      have later : pair.2 ∈ rest := by
        rcases List.mem_cons.mp right with same | later
        · rcases List.mem_cons.mp left with also | inside
          · exact absurd before (by rw [same, also]; exact lt_irrefl item)
          · exact absurd before (by rw [same]; exact lt_asymm (least pair.1 inside))
        · exact later
      rcases List.mem_cons.mp left with same | inside
      · exact Or.inl (List.mem_map.mpr ⟨pair.2, later, by rw [← same]⟩)
      · exact Or.inr ⟨inside, later, before⟩

theorem mem_orderedPairs_finRange {n : Nat} {i j : Fin n} :
    (i, j) ∈ orderedPairs (List.finRange n) ↔ i < j := by
  rw [mem_orderedPairs_iff_lt (List.pairwise_lt_finRange n)]
  simp

theorem orderedPairs_sublist (sublist : items.Sublist others) :
    (orderedPairs items).Sublist (orderedPairs others) := by
  induction sublist with
  | slnil => exact .slnil
  | cons item _ ih => exact ih.trans (List.sublist_append_right ..)
  | cons_cons item sublist ih => exact (sublist.map _).append ih

theorem length_orderedPairs (items : List α) : (orderedPairs items).length = items.length.choose 2 := by
  induction items with
  | nil => rfl
  | cons item rest ih =>
    rw [orderedPairs, List.length_append, List.length_map, ih, List.length_cons, Nat.choose_succ_succ,
      Nat.choose_one_right]

theorem countP_orderedPairs_cons (r : α → α → Bool) (item : α) (rest : List α) :
    ((orderedPairs (item :: rest)).countP fun p => r p.1 p.2) =
      rest.countP (r item) + (orderedPairs rest).countP fun p => r p.1 p.2 := by
  rw [orderedPairs, List.countP_append, List.countP_map]
  rfl

/-- In what order the items are paired does not matter to a relation that looks both ways alike. -/
theorem countP_orderedPairs_perm {r : α → α → Bool} (symmetric : ∀ a b, r a b = r b a) (perm : items.Perm others) :
    ((orderedPairs items).countP fun p => r p.1 p.2) = (orderedPairs others).countP fun p => r p.1 p.2 := by
  induction perm with
  | nil => rfl
  | cons item perm ih => rw [countP_orderedPairs_cons, countP_orderedPairs_cons, perm.countP_eq, ih]
  | swap item other rest =>
    simp only [countP_orderedPairs_cons, List.countP_cons, symmetric item other]
    omega
  | trans _ _ first second => exact first.trans second

end CodeSurvey
