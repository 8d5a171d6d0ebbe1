import Mathlib.Data.Finset.Powerset
import Mathlib.Data.Multiset.MapFold
import CodeSurvey.Metrics
import CodeSurvey.Proofs.Duplication

namespace CodeSurvey

namespace Cohesion

section Pairs

variable {α : Type} {items : List α}

/-- The pairs of places with related items, each a set of two places. -/
def relatedPairs (r : α → α → Prop) [DecidableRel r] (items : List α) : Finset (Finset (Fin items.length)) :=
  (Finset.univ.powersetCard 2).filter fun pair =>
    ∀ i ∈ pair, ∀ j ∈ pair, i ≠ j → r (items.get i) (items.get j)

theorem pair_mem_relatedPairs {r : α → α → Prop} [DecidableRel r] (symmetric : ∀ a b, r a b → r b a)
    {i j : Fin items.length} (different : i ≠ j) :
    {i, j} ∈ relatedPairs r items ↔ r (items.get i) (items.get j) := by
  have two : ({i, j} : Finset (Fin items.length)) ∈ Finset.univ.powersetCard 2 :=
    Finset.mem_powersetCard.mpr ⟨Finset.subset_univ _, Finset.card_pair different⟩
  rw [relatedPairs, Finset.mem_filter]
  constructor
  · rintro ⟨_, related⟩
    exact related i (by simp) j (by simp) different
  · intro related
    refine ⟨two, fun first inFirst second inSecond apart => ?_⟩
    simp only [Finset.mem_insert, Finset.mem_singleton] at inFirst inSecond
    rcases inFirst with rfl | rfl <;> rcases inSecond with rfl | rfl
    · exact absurd rfl apart
    · exact related
    · exact symmetric _ _ related
    · exact absurd rfl apart

theorem exists_of_mem_relatedPairs {r : α → α → Prop} [DecidableRel r] {pair : Finset (Fin items.length)}
    (listed : pair ∈ relatedPairs r items) : ∃ i j, i < j ∧ pair = {i, j} := by
  obtain ⟨i, j, different, rfl⟩ :=
    Finset.card_eq_two.mp (Finset.mem_powersetCard.mp (Finset.mem_filter.mp listed).1).2
  rcases lt_or_gt_of_ne different with before | after
  · exact ⟨i, j, before, rfl⟩
  · exact ⟨j, i, after, Finset.pair_comm i j⟩

/-- Of two places the lesser comes first, so the set of them tells which is which. -/
theorem eq_of_pair_eq {n : Nat} {i j i' j' : Fin n} (before : i < j) (before' : i' < j')
    (same : ({i, j} : Finset (Fin n)) = {i', j'}) : (i, j) = (i', j') := by
  have asSets : ({i, j} : Set (Fin n)) = {i', j'} := by
    rw [← Finset.coe_pair, ← Finset.coe_pair, same]
  rcases Set.pair_eq_pair_iff.mp asSets with ⟨rfl, rfl⟩ | ⟨rfl, rfl⟩
  · rfl
  · exact absurd before before'.asymm

theorem countP_orderedPairs_eq_card {r : α → α → Prop} [DecidableRel r] (symmetric : ∀ a b, r a b → r b a)
    (items : List α) :
    ((orderedPairs items).countP fun p => r p.1 p.2) = (relatedPairs r items).card := by
  let related (p : Fin items.length × Fin items.length) : Bool := r (items.get p.1) (items.get p.2)
  let listed := (orderedPairs (List.finRange items.length)).filter related
  have byPlace : ((orderedPairs items).countP fun p => r p.1 p.2) = listed.length := by
    conv_lhs => rw [← List.map_get_finRange items]
    rw [orderedPairs_map, List.countP_map, List.countP_eq_length_filter]
    rfl
  have distinct : listed.Nodup := (orderedPairs_nodup (List.nodup_finRange _)).filter _
  have mem_listed {i j : Fin items.length} : (i, j) ∈ listed.toFinset ↔ i < j ∧ r (items.get i) (items.get j) := by
    rw [List.mem_toFinset, List.mem_filter, mem_orderedPairs_finRange, decide_eq_true_iff]
  rw [byPlace, ← List.toFinset_card_of_nodup distinct]
  refine Finset.card_bij (fun p _ => {p.1, p.2}) ?_ ?_ ?_
  · rintro ⟨i, j⟩ member
    obtain ⟨before, holds⟩ := mem_listed.mp member
    exact (pair_mem_relatedPairs symmetric before.ne).mpr holds
  · rintro ⟨i, j⟩ member ⟨i', j'⟩ member' same
    exact eq_of_pair_eq (mem_listed.mp member).1 (mem_listed.mp member').1 same
  · intro pair member
    obtain ⟨i, j, before, rfl⟩ := exists_of_mem_relatedPairs member
    exact ⟨(i, j), mem_listed.mpr ⟨before, (pair_mem_relatedPairs symmetric before.ne).mp member⟩, rfl⟩

end Pairs

end Cohesion

/-- Two members of one kind that access the same fields, however often and in whatever order these are listed. -/
structure Member.AccessesAlike (member other : Member) : Prop where
  kind : member.kind = other.kind
  fields : ∀ field, field ∈ member.accessedFields ↔ field ∈ other.accessedFields

/-- Two methods have no accessed field in common. -/
def Member.Apart (member other : Member) : Prop :=
  ∀ field ∈ member.accessedFields, field ∉ other.accessedFields

instance (member other : Member) : Decidable (member.Apart other) :=
  inferInstanceAs (Decidable (∀ field ∈ member.accessedFields, field ∉ other.accessedFields))

namespace Entity

/-- The sets of fields that the methods access, as often as there are methods with each. -/
def accessSets (entity : Entity) : Multiset (Finset String) :=
  (entity.methods.map fun member => member.accessedFields.toFinset : List (Finset String))

/-- The sets of two methods, each method by its place. -/
def methodPairs (entity : Entity) : Finset (Finset (Fin entity.methods.length)) :=
  Finset.univ.powersetCard 2

/-- Those of two methods with no accessed field in common. -/
def apartPairs (entity : Entity) : Finset (Finset (Fin entity.methods.length)) :=
  Cohesion.relatedPairs Member.Apart entity.methods

section Measure

variable {entity other : Entity}

theorem card_methodPairs (entity : Entity) :
    entity.methodPairs.card = entity.methods.length.choose 2 := by
  rw [methodPairs, Finset.card_powersetCard, Finset.card_univ, Fintype.card_fin]

/-- The pairs may be counted by whatever shows of two methods whether they are apart. -/
theorem card_apartPairs {α : Type} (view : Member → α) (apart : α → α → Bool)
    (shows : ∀ member other : Member, member.Apart other ↔ apart (view member) (view other)) (entity : Entity) :
    entity.apartPairs.card = (orderedPairs (entity.methods.map view)).countP fun p => apart p.1 p.2 := by
  have symmetric (member other : Member) (apart : member.Apart other) : other.Apart member :=
    fun field inOther inMember => apart field inMember inOther
  have counted := Cohesion.countP_orderedPairs_eq_card symmetric entity.methods
  rw [orderedPairs_map, List.countP_map]
  refine counted.symm.trans (List.countP_congr fun p _ => ?_)
  rw [decide_eq_true_iff, shows]
  rfl

theorem card_apartPairs_of_accessSets (same : entity.accessSets = other.accessSets) :
    entity.apartPairs.card = other.apartPairs.card := by
  have counted := card_apartPairs (fun member => member.accessedFields.toFinset) (fun a b => decide (Disjoint a b))
    fun member other => by simp only [Member.Apart, decide_eq_true_iff, Finset.disjoint_left, List.mem_toFinset]
  rw [counted, counted]
  have symmetric (a b : Finset String) : decide (Disjoint a b) = decide (Disjoint b a) :=
    decide_eq_decide.mpr disjoint_comm
  exact countP_orderedPairs_perm symmetric (Multiset.coe_eq_coe.mp same)

theorem length_methods_of_accessSets (same : entity.accessSets = other.accessSets) :
    entity.methods.length = other.methods.length := by
  simpa [accessSets] using congrArg Multiset.card same

theorem lackOfCohesion_eq (entity : Entity) :
    entity.lackOfCohesion =
      if entity.methods.length ≤ 1 ∨ entity.fields = [] then 0.0
      else Float.ofNat entity.apartPairs.card / Float.ofNat entity.methodPairs.card := by
  have counted := card_apartPairs Member.accessedFields Cohesion.disjoint
    (fun member other => by simp [Member.Apart, Cohesion.disjoint]) entity
  have all : (orderedPairs (entity.methods.map (·.accessedFields))).length = entity.methodPairs.card := by
    rw [length_orderedPairs, List.length_map, card_methodPairs]
  simp only [lackOfCohesion, ← List.countP_eq_length_filter, ← counted, all, List.length_map,
    Bool.or_eq_true, decide_eq_true_iff, List.isEmpty_iff]

theorem lackOfCohesion_of_accessSets (same : entity.accessSets = other.accessSets)
    (fields : entity.fields = [] ↔ other.fields = []) : entity.lackOfCohesion = other.lackOfCohesion := by
  rw [lackOfCohesion_eq, lackOfCohesion_eq, card_methodPairs, card_methodPairs, card_apartPairs_of_accessSets same,
    length_methods_of_accessSets same]
  simp only [fields]

end Measure

section Members

variable {entity other : Entity}

/-- All that the measure looks at in a member. -/
def access (member : Member) : MemberKind × Finset String :=
  (member.kind, member.accessedFields.toFinset)

theorem access_perm (alike : Multiset.Rel Member.AccessesAlike entity.members other.members) :
    (entity.members.map access).Perm (other.members.map access) := by
  have sameAccess {member other : Member} (alike : member.AccessesAlike other) : access member = access other :=
    Prod.ext alike.kind (by ext field; simpa [access] using alike.fields field)
  have equal : (entity.members : Multiset Member).map access = (other.members : Multiset Member).map access :=
    Multiset.rel_eq.mp (Multiset.rel_map.mpr (alike.mono fun _ _ _ _ => sameAccess))
  exact Multiset.coe_eq_coe.mp equal

theorem accessSets_of_alike (alike : Multiset.Rel Member.AccessesAlike entity.members other.members) :
    entity.accessSets = other.accessSets := by
  have listed (entity : Entity) : entity.methods.map (fun member => member.accessedFields.toFinset) =
      ((entity.members.map access).filter (·.1 == .method)).map Prod.snd := by
    rw [List.filter_map, List.map_map]
    rfl
  rw [accessSets, accessSets, listed, listed]
  exact Multiset.coe_eq_coe.mpr (((access_perm alike).filter _).map _)

theorem fields_of_alike (alike : Multiset.Rel Member.AccessesAlike entity.members other.members) :
    entity.fields = [] ↔ other.fields = [] := by
  have counted (entity : Entity) : entity.fields.length = (entity.members.map access).countP (·.1 == .field) := by
    rw [fields, List.countP_map, List.countP_eq_length_filter]
    rfl
  rw [← List.length_eq_zero_iff, ← List.length_eq_zero_iff, counted, counted, (access_perm alike).countP_eq]

end Members

end Entity

namespace Cohesion

/-- The measure is settled by the sets of fields that the methods access and by whether there is a field, so it
stays the same when members change places and accessed fields are listed otherwise. Beyond the entities with
nothing to compare it is the share of the pairs of methods with no accessed field in common. -/
theorem measure_rests_on_access_sets :
    (∀ entity other : Entity, entity.accessSets = other.accessSets → (entity.fields = [] ↔ other.fields = []) →
      entity.lackOfCohesion = other.lackOfCohesion) ∧
    (∀ entity other : Entity, Multiset.Rel Member.AccessesAlike entity.members other.members →
      entity.lackOfCohesion = other.lackOfCohesion) ∧
    ∀ entity : Entity,
      (entity.methods.length ≤ 1 ∨ entity.fields = [] → entity.lackOfCohesion = 0.0) ∧
      (1 < entity.methods.length → entity.fields ≠ [] →
        entity.lackOfCohesion = Float.ofNat entity.apartPairs.card / Float.ofNat entity.methodPairs.card) ∧
      (1 < entity.methods.length → 0 < entity.methodPairs.card) ∧
      entity.methodPairs.card = entity.methods.length * (entity.methods.length - 1) / 2 ∧
      entity.apartPairs.card ≤ entity.methodPairs.card := by
  refine ⟨fun _ _ => Entity.lackOfCohesion_of_accessSets, fun entity other alike => ?_, fun entity => ?_⟩
  · exact Entity.lackOfCohesion_of_accessSets (Entity.accessSets_of_alike alike) (Entity.fields_of_alike alike)
  refine ⟨fun nothing => ?_, fun several fielded => ?_, fun several => ?_, ?_, Finset.card_filter_le _ _⟩
  · rw [Entity.lackOfCohesion_eq, if_pos nothing]
  · rw [Entity.lackOfCohesion_eq, if_neg (by simp [fielded, several])]
  · rw [Entity.card_methodPairs]
    exact Nat.choose_pos several
  · rw [Entity.card_methodPairs, Nat.choose_two_right]

def accountWith (members : List Member) : Entity :=
  { Entity.declare .classType "app" "Account" "Account.java" with members }

def accessing (name : String) (fields : List String) : Member :=
  { Member.method name "void" with accessedFields := fields }

/-- Two of the methods share a field, and the third has one of its own. -/
def account : Entity :=
  accountWith [.field "balance" "long", accessing "deposit" ["balance"], .constructor,
    accessing "withdraw" ["balance", "limit"], accessing "rename" ["owner"]]

def accountReordered : Entity :=
  accountWith [accessing "rename" ["owner"], accessing "withdraw" ["limit", "balance", "limit"],
    .field "balance" "long", accessing "deposit" ["balance", "balance"], .constructor]

theorem account_alike : Multiset.Rel Member.AccessesAlike account.members accountReordered.members := by
  have order : (accountReordered.members : Multiset Member) =
      ([.field "balance" "long", accessing "deposit" ["balance", "balance"], .constructor,
        accessing "withdraw" ["limit", "balance", "limit"], accessing "rename" ["owner"]] : List Member) :=
    Multiset.coe_eq_coe.mpr (by decide +kernel)
  rw [order]
  exact .cons ⟨rfl, by simp⟩ <| .cons ⟨rfl, by simp [accessing]⟩ <| .cons ⟨rfl, by simp⟩ <|
    .cons ⟨rfl, by simp [accessing]⟩ <| .cons ⟨rfl, by simp⟩ .zero

theorem measure_rests_on_access_sets_account :
    Multiset.Rel Member.AccessesAlike account.members accountReordered.members ∧
      1 < account.methods.length ∧ account.fields ≠ [] ∧
      account.lackOfCohesion = accountReordered.lackOfCohesion ∧
      account.lackOfCohesion = Float.ofNat 2 / Float.ofNat 3 := by
  obtain ⟨_, members, figures⟩ := measure_rests_on_access_sets
  obtain ⟨_, share, _, _, _⟩ := figures account
  have apart : account.apartPairs.card = 2 := by decide +kernel
  have pairs : account.methodPairs.card = 3 := by decide +kernel
  have several : 1 < account.methods.length := by decide +kernel
  have fielded : account.fields ≠ [] := by decide +kernel
  have figure := share several fielded
  rw [apart, pairs] at figure
  exact ⟨account_alike, several, fielded, members account accountReordered account_alike, figure⟩

end Cohesion

end CodeSurvey
