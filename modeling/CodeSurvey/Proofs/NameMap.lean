import Mathlib.Data.List.Nodup
import Mathlib.Data.String.Basic
import CodeSurvey.Graph.Dependency

namespace CodeSurvey

theorem NameSet.mem_insert {set : NameSet} {name element : String} :
    name ∈ set.insert element ↔ name = element ∨ name ∈ set := by
  rw [Std.ExtTreeSet.mem_insert, Std.compare_eq_iff_eq, eq_comm]

theorem NameSet.insert_right_comm (set : NameSet) (name other : String) :
    (set.insert name).insert other = (set.insert other).insert name := by
  refine Std.ExtTreeSet.ext_mem fun element => ?_
  simp only [NameSet.mem_insert]
  exact or_left_comm

theorem NameSet.mem_erase {set : NameSet} {name element : String} :
    name ∈ set.erase element ↔ name ≠ element ∧ name ∈ set := by
  rw [Std.ExtTreeSet.mem_erase, Ne, Std.compare_eq_iff_eq, eq_comm]

theorem NameSet.eraseMany_eq_foldl (set : NameSet) (names : List String) :
    set.eraseMany names = names.foldl Std.ExtTreeSet.erase set := by
  obtain ⟨⟨tree⟩⟩ := set
  have inner : tree.eraseMany names = names.foldl Std.ExtDTreeMap.erase tree := by
    rw [Std.ExtDTreeMap.eraseMany]
    simp only [List.forIn_pure_yield_eq_foldl, bind_pure_comp, map_pure, Id.run_pure]
    exact (List.foldl_hom Subtype.val fun _ _ => rfl).symm
  have outer : names.foldl Std.ExtTreeSet.erase (⟨⟨tree⟩⟩ : NameSet) =
      ⟨⟨names.foldl Std.ExtDTreeMap.erase tree⟩⟩ :=
    List.foldl_hom (fun tree => (⟨⟨tree⟩⟩ : NameSet)) fun _ _ => rfl
  rw [outer, ← inner]
  rfl

theorem NameSet.mem_eraseMany {set : NameSet} {names : List String} {name : String} :
    name ∈ set.eraseMany names ↔ name ∈ set ∧ name ∉ names := by
  rw [NameSet.eraseMany_eq_foldl]
  induction names generalizing set with
  | nil => simp
  | cons first rest ih =>
    rw [List.foldl_cons, ih, NameSet.mem_erase, List.mem_cons, not_or]
    tauto

theorem NameSet.mem_ofList {names : List String} {name : String} :
    name ∈ (Std.ExtTreeSet.ofList names compare : NameSet) ↔ name ∈ names := by
  rw [Std.ExtTreeSet.mem_ofList, List.contains_iff_mem]

theorem NameSet.ofList_toList (set : NameSet) : Std.ExtTreeSet.ofList set.toList compare = set :=
  Std.ExtTreeSet.ext_mem fun _ => NameSet.mem_ofList.trans Std.ExtTreeSet.mem_toList

theorem NameSet.mem_foldl_insertMany {sets : List NameSet} {start : NameSet} {name : String} :
    name ∈ sets.foldl (fun found set => found.insertMany set.toList) start ↔
      name ∈ start ∨ ∃ set ∈ sets, name ∈ set := by
  induction sets generalizing start with
  | nil => simp
  | cons set rest ih =>
    rw [List.foldl_cons, ih, Std.ExtTreeSet.mem_insertMany_list, List.contains_iff_mem,
      Std.ExtTreeSet.mem_toList]
    simp [or_assoc]

theorem NameSet.toList_ascending (set : NameSet) : set.toList.Pairwise (· < ·) :=
  set.ordered_toList.imp fun before => compare_lt_iff_lt.mp before

theorem NameSet.toList_nodup (set : NameSet) : set.toList.Nodup :=
  (NameSet.toList_ascending set).imp fun before => before.ne

/-- Taking out an element that is there leaves one less. -/
theorem NameSet.size_erase_of_mem {set : NameSet} {name : String} (member : name ∈ set) :
    (set.erase name).size < set.size := by
  have positive : 0 < set.toList.length :=
    List.length_pos_of_mem (Std.ExtTreeSet.mem_toList.mpr member)
  rw [Std.ExtTreeSet.length_toList] at positive
  rw [Std.ExtTreeSet.size_erase, if_pos (Std.ExtTreeSet.contains_iff_mem.mpr member)]
  omega

namespace NameMap

theorem keys_ascending {α : Type} (map : NameMap α) : map.keys.Pairwise (· < ·) :=
  map.ordered_keys.imp fun before => compare_lt_iff_lt.mp before

theorem values_eq_map_toList {α : Type} (map : NameMap α) : map.values = map.toList.map (·.2) := by
  obtain ⟨⟨quotient⟩⟩ := map
  induction quotient using Quotient.inductionOn with
  | h tree =>
    change tree.inner.values = (Std.DTreeMap.Internal.Impl.Const.toList tree.inner).map (·.2)
    rw [Std.DTreeMap.Internal.Impl.values_eq_map_snd,
      Std.DTreeMap.Internal.Impl.Const.toList_eq_toListModel_map, List.map_map]
    rfl

/-- Where a name that is no key stands for the empty set. -/
theorem mem_elements_iff {sets : NameMap NameSet} {name element : String} :
    (element ∈ match sets.get? name with
      | some set => set.toList
      | none => []) ↔ ∃ set, sets[name]? = some set ∧ element ∈ set := by
  rw [Std.ExtTreeMap.get?_eq_getElem?]
  cases sets[name]? with
  | none => simp
  | some set => simp

theorem getElem?_erase {α : Type} (map : NameMap α) (name other : String) :
    (map.erase name)[other]? = if other = name then none else map[other]? := by
  simp only [Std.ExtTreeMap.getElem?_erase, Std.compare_eq_iff_eq]
  simp only [eq_comm]

theorem getElem?_insertInto (sets : NameMap NameSet) (name element other : String) :
    (insertInto sets name element)[other]? =
      if other = name then some ((sets[name]?.getD ∅).insert element) else sets[other]? := by
  simp only [insertInto, Std.ExtTreeMap.getElem?_alter, Std.compare_eq_iff_eq]
  simp only [eq_comm]

variable {α β : Type}

theorem getElem?_insertIfNew (map : NameMap α) (name other : String) (value : α) :
    (map.insertIfNew name value)[other]? =
      map[other]?.or (if other = name then some value else none) := by
  simp only [Std.ExtTreeMap.getElem?_insertIfNew, Std.compare_eq_iff_eq,
    Std.ExtTreeMap.mem_iff_isSome_getElem?]
  by_cases same : other = name
  · subst same
    cases map[other]? <;> simp
  · rw [if_neg fun found => same found.1.symm, if_neg same, Option.or_none]

theorem toList_ascending (map : NameMap α) :
    map.toList.Pairwise fun entry other => entry.1 < other.1 :=
  map.ordered_keys_toList.imp fun before => compare_lt_iff_lt.mp before

theorem toList_nodup (map : NameMap α) : map.toList.Nodup :=
  map.toList_ascending.imp fun before same => before.ne (congrArg Prod.fst same)

theorem toList_insertIfNew_perm (map : NameMap α) {name : String} (fresh : name ∉ map) (value : α) :
    (map.insertIfNew name value).toList.Perm ((name, value) :: map.toList) := by
  have absent : map[name]? = none := by simpa using fresh
  have unlisted : (name, value) ∉ map.toList := by
    rw [Std.ExtTreeMap.mem_toList_iff_getElem?_eq_some, absent]
    simp
  have distinct := List.nodup_cons.mpr ⟨unlisted, map.toList_nodup⟩
  refine (List.perm_ext_iff_of_nodup (toList_nodup _) distinct).mpr ?_
  rintro ⟨key, entry⟩
  rw [List.mem_cons, Std.ExtTreeMap.mem_toList_iff_getElem?_eq_some,
    Std.ExtTreeMap.mem_toList_iff_getElem?_eq_some, getElem?_insertIfNew, Prod.mk.injEq]
  by_cases same : key = name
  · simp [same, absent, eq_comm]
  · simp [same]

/-- A new entry comes between two parts of the listing, which stay as they are. -/
theorem exists_toList_insertIfNew (map : NameMap α) {name : String} (fresh : name ∉ map) (value : α) :
    ∃ front back, map.toList = front ++ back ∧
      (map.insertIfNew name value).toList = front ++ (name, value) :: back := by
  have perm := map.toList_insertIfNew_perm fresh value
  obtain ⟨front, back, split⟩ := List.append_of_mem (perm.mem_iff.mpr (List.mem_cons_self ..))
  have ascending := toList_ascending (map.insertIfNew name value)
  rw [split] at perm ascending
  have rest : map.toList.Perm (front ++ back) := (List.perm_middle.symm.trans perm).cons_inv.symm
  refine ⟨front, back, rest.eq_of_pairwise ?_ map.toList_ascending ?_, split⟩
  · exact fun _ _ _ _ forth back => absurd forth (lt_asymm back)
  · exact ascending.sublist ((List.Sublist.refl front).append (List.sublist_cons_self _ back))

/-- Of several items with one key, the first is kept. -/
theorem getElem?_foldl_insertIfNew (key : β → String) (value : β → α) (items : List β)
    (map : NameMap α) (name : String) :
    (items.foldl (fun map item => map.insertIfNew (key item) (value item)) map)[name]? =
      map[name]?.or ((items.find? fun item => name = key item).map value) := by
  induction items generalizing map with
  | nil => simp
  | cons item rest ih =>
    rw [List.foldl_cons, ih, getElem?_insertIfNew, Option.or_assoc, List.find?_cons]
    by_cases same : name = key item
    · simp [same]
    · simp [same]

/-- Of several items with one key the last is kept. -/
theorem getElem?_foldl_insert (key : β → String) (value : β → α) (items : List β)
    (map : NameMap α) (name : String) :
    (items.foldl (fun map item => map.insert (key item) (value item)) map)[name]? =
      ((items.reverse.find? fun item => name = key item).map value).or map[name]? := by
  induction items generalizing map with
  | nil => rfl
  | cons item rest ih =>
    rw [List.foldl_cons, ih, List.reverse_cons, List.find?_append, Option.map_or, Option.or_assoc,
      Std.ExtTreeMap.getElem?_insert]
    congr 1
    by_cases same : name = key item
    · simp [same]
    · simp [same, Ne.symm same]

/-- Items with different keys are all kept. -/
theorem getElem?_foldl_insert_of_mem (key : β → String) (value : β → α) {items : List β} {item : β}
    (map : NameMap α) (distinct : (items.map key).Nodup) (member : item ∈ items) :
    (items.foldl (fun map item => map.insert (key item) (value item)) map)[key item]? =
      some (value item) := by
  rw [← List.foldl_map (f := fun item => (key item, value item))
    (g := fun (map : NameMap α) entry => map.insert entry.1 entry.2),
    ← Std.ExtTreeMap.insertMany_list_eq_foldl]
  refine Std.ExtTreeMap.getElem?_insertMany_list_of_mem Std.ReflCmp.compare_self ?_
    (List.mem_map.mpr ⟨item, member, rfl⟩)
  refine List.pairwise_map.mpr ((List.pairwise_map.mp distinct).imp fun different same => ?_)
  exact different (Std.compare_eq_iff_eq.mp same)

theorem getElem?_foldl_insert_of_not_mem (key : β → String) (value : β → α) {items : List β}
    {name : String} (map : NameMap α) (missing : name ∉ items.map key) :
    (items.foldl (fun map item => map.insert (key item) (value item)) map)[name]? = map[name]? := by
  induction items generalizing map with
  | nil => rfl
  | cons item rest ih =>
    rw [List.map_cons, List.mem_cons, not_or] at missing
    rw [List.foldl_cons, ih _ missing.2, Std.ExtTreeMap.getElem?_insert,
      if_neg fun same => missing.1 (Std.compare_eq_iff_eq.mp same).symm]

theorem mem_foldl_insert (key : β → String) (value : β → α) (items : List β) (map : NameMap α)
    (name : String) :
    name ∈ items.foldl (fun map item => map.insert (key item) (value item)) map ↔
      name ∈ items.map key ∨ name ∈ map := by
  induction items generalizing map with
  | nil => simp
  | cons item rest ih =>
    rw [List.foldl_cons, ih, Std.ExtTreeMap.mem_insert, Std.compare_eq_iff_eq, List.map_cons, List.mem_cons,
      eq_comm, or_left_comm, or_assoc]

/-- Every map comes out of its own listing. -/
theorem insertMany_toList (map : NameMap α) : (∅ : NameMap α).insertMany map.toList = map := by
  refine Std.ExtTreeMap.ext_getElem? fun name => ?_
  rw [Std.ExtTreeMap.insertMany_list_eq_foldl]
  cases found : map[name]? with
  | some value =>
    have distinct : (map.toList.map Prod.fst).Nodup :=
      List.pairwise_map.mpr (map.toList_ascending.imp fun before => before.ne)
    exact getElem?_foldl_insert_of_mem Prod.fst Prod.snd ∅ distinct
      (Std.ExtTreeMap.mem_toList_iff_getElem?_eq_some.mpr found)
  | none =>
    have missing : name ∉ map.toList.map Prod.fst := by
      rw [Std.ExtTreeMap.map_fst_toList_eq_keys, Std.ExtTreeMap.mem_keys,
        Std.ExtTreeMap.mem_iff_isSome_getElem?, found]
      exact Bool.false_ne_true
    exact (getElem?_foldl_insert_of_not_mem Prod.fst Prod.snd ∅ missing).trans
      Std.ExtTreeMap.getElem?_empty

theorem getElem?_increment (counts : NameMap Nat) (name other : String) :
    (increment counts name)[other]? =
      if other = name then some (counts[name]?.getD 0 + 1) else counts[other]? := by
  simp only [increment, Std.ExtTreeMap.getElem?_alter, Std.compare_eq_iff_eq]
  simp only [eq_comm]

/-- A name that is counted at least once gets a key. -/
theorem getElem?_foldl_increment (names : List String) (counts : NameMap Nat) (name : String) :
    (names.foldl increment counts)[name]? =
      if name ∈ names then some (counts[name]?.getD 0 + names.count name) else counts[name]? := by
  induction names generalizing counts with
  | nil => simp
  | cons first rest ih =>
    rw [List.foldl_cons, ih, getElem?_increment]
    by_cases same : name = first
    · subst same
      by_cases later : name ∈ rest
      · simp [later]
        omega
      · simp [later, List.count_eq_zero_of_not_mem later]
    · simp [same, Ne.symm same]

theorem getElem?_foldl_increment_empty (names : List String) (name : String) :
    (names.foldl increment ∅)[name]? =
      if names.count name = 0 then none else some (names.count name) := by
  rw [getElem?_foldl_increment]
  by_cases member : name ∈ names
  · have positive := List.count_pos_iff.mpr member
    rw [if_pos member, if_neg positive.ne', Std.ExtTreeMap.getElem?_empty, Option.getD_none, Nat.zero_add]
  · rw [if_neg member, if_pos (List.count_eq_zero_of_not_mem member), Std.ExtTreeMap.getElem?_empty]

theorem mem_foldl_increment {names : List String} {counts : NameMap Nat} {name : String} :
    name ∈ names.foldl increment counts ↔ name ∈ names ∨ name ∈ counts := by
  rw [Std.ExtTreeMap.mem_iff_isSome_getElem?, getElem?_foldl_increment]
  by_cases member : name ∈ names <;> simp [member]

/-- An element of the set under a name. -/
def Holds (sets : NameMap NameSet) (name element : String) : Prop :=
  ∃ set, sets[name]? = some set ∧ element ∈ set

theorem holds_insertInto {sets : NameMap NameSet} {name element other item : String} :
    Holds (insertInto sets name element) other item ↔
      other = name ∧ item = element ∨ Holds sets other item := by
  unfold Holds
  rw [getElem?_insertInto]
  by_cases same : other = name
  · subst same
    simp only [if_true, Option.some.injEq, exists_eq_left', NameSet.mem_insert, true_and]
    cases sets[other]? <;> simp
  · simp [same]

theorem holds_foldl_insertInto {entries : List (String × String)} {sets : NameMap NameSet}
    {name element : String} :
    Holds (entries.foldl (fun sets entry => insertInto sets entry.1 entry.2) sets) name element ↔
      (name, element) ∈ entries ∨ Holds sets name element := by
  induction entries generalizing sets with
  | nil => simp
  | cons entry rest ih =>
    rw [List.foldl_cons, ih, holds_insertInto, List.mem_cons, Prod.mk.injEq]
    tauto

theorem mem_foldl_insertInto {entries : List (String × String)} {sets : NameMap NameSet} {name : String} :
    name ∈ entries.foldl (fun sets entry => insertInto sets entry.1 entry.2) sets ↔
      (∃ entry ∈ entries, entry.1 = name) ∨ name ∈ sets := by
  induction entries generalizing sets with
  | nil => simp
  | cons entry rest ih =>
    rw [List.foldl_cons, ih, Std.ExtTreeMap.mem_iff_isSome_getElem?, getElem?_insertInto]
    by_cases same : name = entry.1
    · simp [same]
    · simp [same, Ne.symm same]

/-- Changes at two names can be made in either order, and at one name when they commute there. -/
theorem alter_comm (map : NameMap α) {name other : String} {f g : Option α → Option α}
    (commute : name = other → ∀ value, g (f value) = f (g value)) :
    (map.alter name f).alter other g = (map.alter other g).alter name f := by
  refine Std.ExtTreeMap.ext_getElem? fun key => ?_
  simp only [Std.ExtTreeMap.getElem?_alter, Std.compare_eq_iff_eq]
  by_cases same : name = other
  · subst same
    by_cases here : name = key <;> simp [here, commute rfl]
  · by_cases here : name = key
    · subst here
      simp [Ne.symm same]
    · by_cases there : other = key
      · subst there
        simp [here]
      · simp [here, there]

theorem insert_comm (map : NameMap α) {name other : String} (apart : name ≠ other) (value last : α) :
    (map.insert name value).insert other last = (map.insert other last).insert name value := by
  refine Std.ExtTreeMap.ext_getElem? fun key => ?_
  simp only [Std.ExtTreeMap.getElem?_insert, Std.compare_eq_iff_eq]
  by_cases there : other = key
  · have elsewhere : name ≠ key := fun here => apart (here.trans there.symm)
    rw [if_pos there, if_neg elsewhere, if_pos there]
  · rw [if_neg there, if_neg there]

instance : RightCommutative increment where
  right_comm counts _ _ := alter_comm counts fun _ _ => rfl

instance : RightCommutative fun (sets : NameMap NameSet) (entry : String × String) =>
    insertInto sets entry.1 entry.2 where
  right_comm sets _ _ := alter_comm sets fun _ _ => congrArg some (NameSet.insert_right_comm _ _ _)

/-- Each name with each element of its set. -/
def pairs (sets : NameMap NameSet) : List (String × String) :=
  sets.toList.flatMap fun entry => entry.2.toList.map (entry.1, ·)

theorem mem_pairs {sets : NameMap NameSet} {name element : String} :
    (name, element) ∈ pairs sets ↔ Holds sets name element := by
  simp only [pairs, List.mem_flatMap, List.mem_map, Prod.mk.injEq, Holds]
  constructor
  · rintro ⟨⟨_, set⟩, member, _, inside, rfl, rfl⟩
    exact ⟨set, Std.ExtTreeMap.mem_toList_iff_getElem?_eq_some.mp member,
      Std.ExtTreeSet.mem_toList.mp inside⟩
  · rintro ⟨set, atName, inside⟩
    exact ⟨(name, set), Std.ExtTreeMap.mem_toList_iff_getElem?_eq_some.mpr atName, element,
      Std.ExtTreeSet.mem_toList.mpr inside, rfl, rfl⟩

theorem pairs_nodup (sets : NameMap NameSet) : (pairs sets).Nodup := by
  refine List.nodup_flatMap.mpr ⟨fun entry _ => ?_, ?_⟩
  · exact List.Nodup.map (fun _ _ same => (Prod.mk.inj same).2) (NameSet.toList_nodup entry.2)
  · refine sets.distinct_keys_toList.imp fun different pair first second => ?_
    obtain ⟨_, _, rfl⟩ := List.mem_map.mp first
    obtain ⟨_, _, same⟩ := List.mem_map.mp second
    exact different (Std.compare_eq_iff_eq.mpr (Prod.mk.inj same).1.symm)

theorem length_pairs (sets : NameMap NameSet) : (pairs sets).length = sumOf (·.size) sets.values := by
  rw [values_eq_map_toList, pairs]
  induction sets.toList with
  | nil => rfl
  | cons entry rest ih =>
    rw [List.flatMap_cons, List.length_append, List.length_map, Std.ExtTreeSet.length_toList, ih]
    rfl

end NameMap

end CodeSurvey
