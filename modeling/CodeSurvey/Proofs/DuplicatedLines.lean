import Mathlib.Data.List.Perm.Subperm
import CodeSurvey.Analysis.Basic
import CodeSurvey.Proofs.Balance
import CodeSurvey.Proofs.Duplication

namespace CodeSurvey

section Sums

variable {α β : Type} {count : α → Nat} {items others : List α}

theorem sumOf_append (items others : List α) :
    sumOf count (items ++ others) = sumOf count items + sumOf count others := by
  induction items with
  | nil => rw [List.nil_append, sumOf, Nat.zero_add]
  | cons item rest ih => rw [List.cons_append, sumOf, sumOf, ih, Nat.add_assoc]

theorem sumOf_replicate (copies : Nat) (item : α) :
    sumOf count (List.replicate copies item) = copies * count item := by
  induction copies with
  | zero => rw [List.replicate_zero, sumOf, Nat.zero_mul]
  | succ copies ih => rw [List.replicate_succ, sumOf, ih, Nat.succ_mul, Nat.add_comm]

theorem sumOf_flatMap (f : β → List α) (items : List β) :
    sumOf count (items.flatMap f) = sumOf (fun item => sumOf count (f item)) items := by
  induction items with
  | nil => rfl
  | cons item rest ih => rw [List.flatMap_cons, sumOf_append, ih, sumOf]

theorem sumOf_perm (perm : items.Perm others) : sumOf count items = sumOf count others := by
  induction perm with
  | nil => rfl
  | cons item _ ih => rw [sumOf, sumOf, ih]
  | swap item other rest =>
    simp only [sumOf]
    omega
  | trans _ _ first second => exact first.trans second

theorem sumOf_le_of_sublist (sublist : items.Sublist others) : sumOf count items ≤ sumOf count others := by
  induction sublist with
  | slnil => exact le_rfl
  | cons item _ ih =>
    rw [sumOf]
    omega
  | cons_cons item _ ih =>
    rw [sumOf, sumOf]
    omega

theorem sumOf_le_of_subperm (subperm : items.Subperm others) : sumOf count items ≤ sumOf count others := by
  obtain ⟨between, perm, sublist⟩ := subperm
  rw [← sumOf_perm perm]
  exact sumOf_le_of_sublist sublist

theorem le_sumOf_of_mem (count : α → Nat) {item : α} (member : item ∈ items) :
    count item ≤ sumOf count items := by
  have one : sumOf count [item] ≤ sumOf count items :=
    sumOf_le_of_sublist (List.singleton_sublist.mpr member)
  simpa [sumOf] using one

theorem sumOf_le_of_forall_mem {other : α → Nat} (le : ∀ item ∈ items, count item ≤ other item) :
    sumOf count items ≤ sumOf other items := by
  induction items with
  | nil => exact le_rfl
  | cons item rest ih =>
    have first := le item (List.mem_cons_self ..)
    have later := ih fun item member => le item (List.mem_cons_of_mem _ member)
    rw [sumOf, sumOf]
    omega

theorem sumOf_filter_add (count : α → Nat) (p : α → Bool) (items : List α) :
    sumOf count (items.filter p) + sumOf count (items.filter fun item => !p item) = sumOf count items := by
  rw [← sumOf_append]
  exact sumOf_perm (List.filter_append_perm p items)

/-- Parts that exclude each other hold no more together than the whole. -/
theorem sumOf_parts_le {parts : List β} {p : β → α → Bool}
    (apart : parts.Pairwise fun part other => ∀ item, p part item → ¬p other item) (items : List α) :
    sumOf (fun part => sumOf count (items.filter (p part))) parts ≤ sumOf count items := by
  induction parts generalizing items with
  | nil => exact Nat.zero_le _
  | cons part rest ih =>
    obtain ⟨excludes, restApart⟩ := List.pairwise_cons.mp apart
    have outside : sumOf (fun other => sumOf count (items.filter (p other))) rest =
        sumOf (fun other => sumOf count ((items.filter fun item => !p part item).filter (p other))) rest := by
      refine sumOf_congr fun other member => ?_
      rw [List.filter_filter]
      refine congrArg (sumOf count) (List.filter_congr fun item _ => ?_)
      have excluded := excludes other member item
      cases here : p part item <;> simp_all
    have left := ih restApart (items.filter fun item => !p part item)
    have split := sumOf_filter_add count (p part) items
    rw [sumOf, outside]
    omega

theorem sumOf_pairsWith (count : α → Nat) (item : α) (others : List α) :
    sumOf (fun pair => count pair.1 + count pair.2) (others.map (item, ·)) =
      others.length * count item + sumOf count others := by
  induction others with
  | nil => rw [List.map_nil, sumOf, sumOf, List.length_nil, Nat.zero_mul]
  | cons other rest ih =>
    rw [List.map_cons, sumOf, ih, sumOf, List.length_cons, Nat.succ_mul]
    dsimp only
    omega

/-- Each item is in one pair with every other item. -/
theorem sumOf_orderedPairs (count : α → Nat) (items : List α) :
    sumOf (fun pair => count pair.1 + count pair.2) (orderedPairs items) =
      (items.length - 1) * sumOf count items := by
  induction items with
  | nil => rfl
  | cons item rest ih =>
    have onceMore : sumOf count rest + (rest.length - 1) * sumOf count rest =
        rest.length * sumOf count rest := by
      cases rest with
      | nil => rfl
      | cons other rest => rw [List.length_cons, Nat.add_sub_cancel, Nat.succ_mul, Nat.add_comm]
    rw [orderedPairs, sumOf_append, sumOf_pairsWith, ih, sumOf, List.length_cons, Nat.add_sub_cancel,
      Nat.mul_add]
    omega

end Sums

namespace Duplication

variable {κ : Type} [Scale κ] {limits : DuplicationLimits κ} {bodies : List MethodBody}

section Counted

variable (limits bodies)

/-- The lines of two methods. -/
def jointLines (pair : Fin bodies.length × Fin bodies.length) : Nat :=
  (bodies.get pair.1).lineCount + (bodies.get pair.2).lineCount

/-- The pairs of methods that are in one group, for each group. -/
def groupedPairs : List (Fin bodies.length × Fin bodies.length) :=
  (classes limits.minBodyLength bodies).flatMap orderedPairs ++
    if limits.detectSimilar then alikePairs limits bodies else []

theorem sameDigest_of_mem_class {minBodyLength : Nat} {places : List (Fin bodies.length)}
    (listed : places ∈ classes minBodyLength bodies) {i j : Fin bodies.length} (first : i ∈ places)
    (second : j ∈ places) : sameDigest (entryAt minBodyLength bodies i) (entryAt minBodyLength bodies j) := by
  obtain ⟨digest, _, rfl⟩ := List.mem_map.mp (List.mem_filter.mp listed).1
  have atFirst := digest_entryAt.mpr (mem_withDigest.mp first)
  have atSecond := digest_entryAt.mpr (mem_withDigest.mp second)
  simp [sameDigest, atFirst, atSecond]

theorem orderedPairs_class_sublist {minBodyLength : Nat} {places : List (Fin bodies.length)}
    (listed : places ∈ classes minBodyLength bodies) :
    (orderedPairs places).Sublist (orderedPairs (List.finRange bodies.length)) := by
  obtain ⟨digest, _, rfl⟩ := List.mem_map.mp (List.mem_filter.mp listed).1
  exact orderedPairs_sublist List.filter_sublist

theorem groupedPairs_subset : groupedPairs limits bodies ⊆ orderedPairs (List.finRange bodies.length) := by
  intro pair member
  rcases List.mem_append.mp member with inClass | alike
  · obtain ⟨places, listed, inside⟩ := List.mem_flatMap.mp inClass
    exact (orderedPairs_class_sublist bodies listed).subset inside
  · split at alike
    · exact (List.mem_filter.mp alike).1
    · cases alike

/-- No pair of methods is in two groups. -/
theorem groupedPairs_nodup : (groupedPairs limits bodies).Nodup := by
  have distinct := orderedPairs_nodup (List.nodup_finRange bodies.length)
  refine List.nodup_append'.mpr ⟨List.nodup_flatMap.mpr ⟨?_, ?_⟩, ?_, ?_⟩
  · intro places listed
    exact distinct.sublist (orderedPairs_class_sublist bodies listed)
  · refine (classes_disjoint limits.minBodyLength bodies).imp fun disjoint pair first second => ?_
    exact disjoint (mem_of_mem_orderedPairs first).1 (mem_of_mem_orderedPairs second).1
  · split
    · exact alikePairs_nodup limits bodies
    · exact .nil
  · intro pair inClass alike
    obtain ⟨places, listed, inside⟩ := List.mem_flatMap.mp inClass
    obtain ⟨first, second⟩ := mem_of_mem_orderedPairs inside
    have same := sameDigest_of_mem_class bodies listed first second
    split at alike
    · obtain ⟨_, formed⟩ := mem_alikePairs.mp alike
      simp [Duplication.alike, same] at formed
    · cases alike

theorem sumOf_jointLines_le :
    sumOf (jointLines bodies) (groupedPairs limits bodies) ≤
      (bodies.length - 1) * sumOf (·.lineCount) bodies := by
  have all := sumOf_orderedPairs (fun i => (bodies.get i).lineCount) (List.finRange bodies.length)
  rw [List.length_finRange, ← sumOf_map bodies.get (·.lineCount), List.map_get_finRange] at all
  rw [← all]
  exact sumOf_le_of_subperm ((groupedPairs_nodup limits bodies).subperm (groupedPairs_subset limits bodies))

end Counted

section Groups

variable (limits bodies) in
theorem detect_perm : (detect limits bodies).Perm
    (exactGroups (bodies.map (Entry.ofBody limits.minBodyLength)) ++
      if limits.detectSimilar then (alikePairs limits bodies).map (pairGroup bodies) else []) := by
  rw [← similarGroups_eq_map]
  exact List.mergeSort_perm _ _

theorem duplicatedLines_class_le (minBodyLength : Nat) (places : List (Fin bodies.length)) :
    (exactGroup (places.map (entryAt minBodyLength bodies)) : DuplicationGroup κ).duplicatedLines ≤
      sumOf (jointLines bodies) (orderedPairs places) := by
  unfold jointLines
  rw [sumOf_orderedPairs fun i => (bodies.get i).lineCount]
  cases places with
  | nil => exact Nat.zero_le _
  | cons first rest =>
    have lines : (exactGroup ((first :: rest).map (entryAt minBodyLength bodies)) :
        DuplicationGroup κ).duplicatedLines = (bodies.get first).lineCount * rest.length := by
      simp [DuplicationGroup.duplicatedLines, exactGroup, entryAt, Entry.ofBody]
    rw [lines, Nat.mul_comm, List.length_cons, Nat.add_sub_cancel]
    exact Nat.mul_le_mul_left _
      (le_sumOf_of_mem (fun i => (bodies.get i).lineCount) (List.mem_cons_self ..))

theorem duplicatedLines_pair_le (pair : Fin bodies.length × Fin bodies.length) :
    (pairGroup bodies pair : DuplicationGroup κ).duplicatedLines ≤ jointLines bodies pair := by
  simp only [DuplicationGroup.duplicatedLines, pairGroup, similarGroup, jointLines, List.length_cons,
    List.length_nil]
  omega

/-- A group claims no more than its pairs have, so all groups claim no more than all pairs have. -/
theorem sumOf_duplicatedLines_le (limits : DuplicationLimits κ) (bodies : List MethodBody) :
    sumOf (·.duplicatedLines) (detect limits bodies) ≤
      (bodies.length - 1) * sumOf (·.lineCount) bodies := by
  have exact : sumOf (·.duplicatedLines)
      (exactGroups (bodies.map (Entry.ofBody limits.minBodyLength)) : List (DuplicationGroup κ)) ≤
      sumOf (jointLines bodies) ((classes limits.minBodyLength bodies).flatMap orderedPairs) := by
    rw [exactGroups_eq_map, sumOf_map, sumOf_flatMap]
    exact sumOf_le_sumOf (duplicatedLines_class_le limits.minBodyLength) _
  have similar : sumOf (·.duplicatedLines) (if limits.detectSimilar then
        (alikePairs limits bodies).map (pairGroup bodies) else [] : List (DuplicationGroup κ)) ≤
      sumOf (jointLines bodies) (if limits.detectSimilar then alikePairs limits bodies else []) := by
    split
    · rw [sumOf_map]
      exact sumOf_le_sumOf duplicatedLines_pair_le _
    · exact le_rfl
  have counted := sumOf_jointLines_le limits bodies
  rw [groupedPairs, sumOf_append] at counted
  rw [sumOf_perm (detect_perm limits bodies), sumOf_append]
  omega

/-- Some method of a group is as long as the group takes its members to be. -/
theorem exists_member_of_mem_detect {group : DuplicationGroup κ} (member : group ∈ detect limits bodies) :
    ∃ method ∈ bodies, method.id ∈ group.members ∧ group.lineCount ≤ method.lineCount := by
  rcases List.mem_append.mp ((detect_perm limits bodies).mem_iff.mp member) with exact | similar
  · rw [exactGroups_eq_map] at exact
    obtain ⟨places, listed, rfl⟩ := List.mem_map.mp exact
    cases places with
    | nil => simp [classes] at listed
    | cons first rest =>
      refine ⟨bodies.get first, List.get_mem bodies first, ?_, ?_⟩
      · simp [exactGroup, entryAt, Entry.ofBody]
      · simp [exactGroup, entryAt, Entry.ofBody]
  · split at similar
    · obtain ⟨pair, _, rfl⟩ := List.mem_map.mp similar
      have mean : (pairGroup bodies pair : DuplicationGroup κ).lineCount =
          ((bodies.get pair.1).lineCount + (bodies.get pair.2).lineCount) / 2 := rfl
      rcases Nat.le_total (bodies.get pair.1).lineCount (bodies.get pair.2).lineCount with less | greater
      · exact ⟨bodies.get pair.2, List.get_mem .., by simp [pairGroup, similarGroup], by omega⟩
      · exact ⟨bodies.get pair.1, List.get_mem .., by simp [pairGroup, similarGroup], by omega⟩
    · cases similar

/-- The lines of the methods that a group names. -/
def memberLines (bodies : List MethodBody) (group : DuplicationGroup κ) : Nat :=
  sumOf (·.lineCount) (bodies.filter fun method => group.members.contains method.id)

theorem duplicatedLines_le_memberLines {group : DuplicationGroup κ} (member : group ∈ detect limits bodies)
    (small : group.members.length ≤ 2) : group.duplicatedLines ≤ memberLines bodies group := by
  obtain ⟨method, inside, named, long⟩ := exists_member_of_mem_detect member
  have kept : method ∈ bodies.filter fun method => group.members.contains method.id :=
    List.mem_filter.mpr ⟨inside, List.contains_iff_mem.mpr named⟩
  have held : method.lineCount ≤ memberLines bodies group := le_sumOf_of_mem MethodBody.lineCount kept
  have once : group.duplicatedLines ≤ group.lineCount * 1 := Nat.mul_le_mul_left _ (by omega)
  omega

/-- Where no method is in two groups and no group claims more lines than it has, the sum is right. -/
theorem sumOf_duplicatedLines_le_of_apart
    (apart : (detect limits bodies).Pairwise fun group other => group.members.Disjoint other.members)
    (fair : ∀ group ∈ detect limits bodies, 2 < group.members.length →
      group.duplicatedLines ≤ memberLines bodies group) :
    sumOf (·.duplicatedLines) (detect limits bodies) ≤ sumOf (·.lineCount) bodies := by
  have each : ∀ group ∈ detect limits bodies, group.duplicatedLines ≤ memberLines bodies group := by
    intro group member
    rcases Nat.lt_or_ge 2 group.members.length with large | small
    · exact fair group member large
    · exact duplicatedLines_le_memberLines member small
  have exclusive : (detect limits bodies).Pairwise fun group other => ∀ method : MethodBody,
      group.members.contains method.id → ¬other.members.contains method.id := by
    refine apart.imp fun disjoint method first second => ?_
    exact disjoint (List.contains_iff_mem.mp first) (List.contains_iff_mem.mp second)
  exact (sumOf_le_of_forall_mem each).trans (sumOf_parts_le exclusive bodies)

/-- Bodies that are all the same and long enough form one group and no other. -/
theorem detect_of_same {body : String} (long : limits.minBodyLength < body.length)
    (same : ∀ method ∈ bodies, method.body = body) (several : 1 < bodies.length) :
    detect limits bodies = [exactGroup (bodies.map (Entry.ofBody limits.minBodyLength))] := by
  have digest : ∀ entry ∈ bodies.map (Entry.ofBody limits.minBodyLength),
      entry.digest = some (Digest.sha256 body) := by
    intro entry member
    obtain ⟨method, inside, rfl⟩ := List.mem_map.mp member
    simp [Entry.ofBody, same method inside, long]
  have keys : (byDigest (bodies.map (Entry.ofBody limits.minBodyLength))).keys = [Digest.sha256 body] := by
    refine (NameMap.keys_ascending _).eq_of_mem_iff (List.pairwise_singleton _ _) fun key => ?_
    rw [mem_keys_byDigest, List.mem_singleton]
    constructor
    · rintro ⟨entry, member, own⟩
      exact (Option.some.inj ((digest entry member).symm.trans own)).symm
    · rintro rfl
      obtain ⟨method, inside⟩ := List.exists_mem_of_length_pos (Nat.zero_lt_of_lt several)
      have member := List.mem_map_of_mem (f := Entry.ofBody limits.minBodyLength) inside
      exact ⟨_, member, digest _ member⟩
  have exact : (exactGroups (bodies.map (Entry.ofBody limits.minBodyLength)) : List (DuplicationGroup κ)) =
      [exactGroup (bodies.map (Entry.ofBody limits.minBodyLength))] := by
    have all : (bodies.map (Entry.ofBody limits.minBodyLength)).filter
        (·.digest = some (Digest.sha256 body)) = bodies.map (Entry.ofBody limits.minBodyLength) :=
      List.filter_eq_self.mpr fun entry member => decide_eq_true (digest entry member)
    rw [exactGroups, values_byDigest, keys, List.map_singleton, all, List.filter_cons_of_pos]
    · rfl
    · simpa using several
  have similar : similarGroups limits.threshold (bodies.map (Entry.ofBody limits.minBodyLength)) = [] := by
    rw [similarGroups, List.filterMap_eq_nil_iff]
    intro pair member
    obtain ⟨first, second⟩ := mem_of_mem_orderedPairs member
    have equal : sameDigest pair.1 pair.2 := by simp [sameDigest, digest _ first, digest _ second]
    rw [compare?, equal, Bool.true_or, if_pos rfl]
  rw [detect, exact, similar, ite_self, List.append_nil, List.mergeSort_singleton]

end Groups

end Duplication

section Project

/-- The lines of code of a model. -/
def Model.linesOfCode (model : Model) : Nat :=
  sumOf (fun entity => sumOf (·.lineCount) entity.callables) model.toList

theorem sumOf_filterMap_le {α β : Type} {f : α → Option β} {count : β → Nat} {measure : α → Nat}
    (kept : ∀ item found, f item = some found → count found = measure item) (items : List α) :
    sumOf count (items.filterMap f) ≤ sumOf measure items := by
  induction items with
  | nil => exact le_rfl
  | cons item rest ih =>
    cases found : f item with
    | none =>
      rw [List.filterMap_cons_none found, sumOf]
      omega
    | some value =>
      have same := kept item value found
      rw [List.filterMap_cons_some found, sumOf, sumOf]
      omega

/-- Methods without a body have lines too. -/
theorem Model.sumOf_bodies_le (model : Model) : sumOf (·.lineCount) model.bodies ≤ model.linesOfCode := by
  rw [Model.bodies, sumOf_perm (List.mergeSort_perm _ _), sumOf_flatMap]
  refine sumOf_le_sumOf (fun entity => sumOf_filterMap_le (fun member method found => ?_) _) _
  obtain ⟨body, _, rfl⟩ := Option.map_eq_some_iff.mp found
  rfl

/-- The lines that all groups of a report together claim to save. -/
def MetricsResult.duplicatedLines (result : MetricsResult) : Nat :=
  sumOf (·.duplicatedLines) result.duplicates

theorem MetricsResult.duplicates_eq (config : Config) (model : Model) (deps : DependencyResult) :
    (MetricsResult.ofDependencies config model deps).duplicates =
      Duplication.detect (Duplication.ofConfig config.duplication) model.bodies :=
  rfl

theorem MetricsResult.totalLinesOfCode_eq (config : Config) (model : Model) (deps : DependencyResult) :
    (MetricsResult.ofDependencies config model deps).project.totalLinesOfCode = model.linesOfCode :=
  sumOf_map _ _ _

theorem Model.toList_ofList_singleton (entity : Entity) : (Model.ofList [entity]).toList = [entity] := by
  have fresh : ¬Model.empty.contains entity.qualifiedName := by simp [Model.contains, Model.empty]
  obtain ⟨front, back, before, after⟩ := Model.exists_toList_insert fresh
  have none : front ++ back = [] := by
    rw [← before]
    rfl
  obtain ⟨rfl, rfl⟩ := List.append_eq_nil_iff.mp none
  exact after

section Layouts

/-- A class without members. -/
def totals : Entity :=
  .declare .classType "" "Totals" "Totals.java"

/-- A method with a name, a body and a number of lines. -/
def layout (body : String) (method : String × Nat) : Member :=
  { Member.method method.1 "int" with body := some body, lineCount := method.2 }

/-- A class whose methods have one body in different layouts. -/
def layoutsOf (body : String) (methods : List (String × Nat)) : Entity :=
  { totals with members := methods.map (layout body) }

/-- A method of the class as it is offered for comparison. -/
def layoutBody (body : String) (method : String × Nat) : MethodBody :=
  ⟨totals.memberId (layout body method), body, method.2, 1⟩

theorem callables_layoutsOf (body : String) (methods : List (String × Nat)) :
    (layoutsOf body methods).callables = (layoutsOf body methods).members := by
  refine List.filter_eq_self.mpr fun member inside => ?_
  obtain ⟨method, _, rfl⟩ := List.mem_map.mp inside
  rfl

theorem bodies_layoutsOf (body : String) {methods : List (String × Nat)}
    (sorted : (methods.map (layoutBody body)).Pairwise fun a b => (compare a.id b.id).isLE) :
    (Model.ofList [layoutsOf body methods]).bodies = methods.map (layoutBody body) := by
  rw [Model.bodies, Model.toList_ofList_singleton, List.flatMap_singleton, callables_layoutsOf]
  have found : (layoutsOf body methods).members.filterMap (fun member => member.body.map fun text =>
      { id := (layoutsOf body methods).memberId member, body := text, lineCount := member.lineCount
        complexity := max member.complexity 1 : MethodBody }) = methods.map (layoutBody body) := by
    unfold layoutsOf
    rw [List.filterMap_map]
    exact congrFun List.filterMap_eq_map methods
  rw [found]
  exact List.mergeSort_of_pairwise sorted

theorem detect_layouts {κ : Type} [Scale κ] {limits : DuplicationLimits κ} {body : String}
    (long : limits.minBodyLength < body.length) {methods : List (String × Nat)} (several : 1 < methods.length) :
    Duplication.detect limits (methods.map (layoutBody body)) =
      [Duplication.exactGroup ((methods.map (layoutBody body)).map
        (Duplication.Entry.ofBody limits.minBodyLength))] := by
  refine Duplication.detect_of_same long (fun method member => ?_) (by rwa [List.length_map])
  obtain ⟨_, _, rfl⟩ := List.mem_map.mp member
  rfl

theorem linesOfCode_layoutsOf (body : String) (methods : List (String × Nat)) :
    (Model.ofList [layoutsOf body methods]).linesOfCode = sumOf (·.2) methods := by
  rw [Model.linesOfCode, Model.toList_ofList_singleton, sumOf, sumOf, callables_layoutsOf, layoutsOf, sumOf_map]
  rfl

/-- One method has all the lines and its copies none, and the group takes each for as long as the first. -/
theorem exists_claiming_every_copy {κ : Type} [Scale κ] (limits : DuplicationLimits κ) (copies lines : Nat) :
    ∃ model : Model, model.bodies.length = copies + 1 ∧ model.linesOfCode = lines ∧
      copies * lines ≤ sumOf (·.duplicatedLines) (Duplication.detect limits model.bodies) := by
  let body := String.ofList (List.replicate (limits.minBodyLength + 1) 'x')
  let methods := ("sum", lines) :: List.replicate copies ("sum", 0)
  have sorted : (methods.map (layoutBody body)).Pairwise fun a b => (compare a.id b.id).isLE := by
    have oneId : ∀ method ∈ methods.map (layoutBody body), method.id = (layoutBody body ("sum", 0)).id := by
      simp [methods, layoutBody, layout, Entity.memberId, Member.method, Member.signature]
    refine List.pairwise_of_forall_mem_list fun method first other second => ?_
    rw [oneId method first, oneId other second, Std.compare_self]
    rfl
  have listed := bodies_layoutsOf body sorted
  have length : (Model.ofList [layoutsOf body methods]).bodies.length = copies + 1 := by
    simp [listed, methods]
  refine ⟨.ofList [layoutsOf body methods], length, ?_, ?_⟩
  · rw [linesOfCode_layoutsOf, sumOf, sumOf_replicate, Nat.mul_zero, Nat.add_zero]
  · rcases Nat.eq_zero_or_pos copies with rfl | several
    · rw [Nat.zero_mul]
      exact Nat.zero_le _
    · have long : limits.minBodyLength < body.length := by simp [body]
      have several : 1 < methods.length := by
        simp only [methods, List.length_cons, List.length_replicate]
        omega
      rw [listed, detect_layouts long several]
      simp [sumOf, DuplicationGroup.duplicatedLines, Duplication.exactGroup, Duplication.Entry.ofBody, layoutBody,
        methods, Nat.mul_comm]

end Layouts

end Project

/-- Of n methods with a body, the groups of duplicates claim at most n - 1 times the lines of the project, and
there are projects where they claim that much. They claim no more than the lines of the project when no method
is in two groups and no group of three or more methods claims more lines than its methods have. -/
theorem duplicated_lines_bounded (config : Config) :
    (∀ (model : Model) (deps : DependencyResult),
      let result := MetricsResult.ofDependencies config model deps
      result.duplicatedLines ≤ (model.bodies.length - 1) * result.project.totalLinesOfCode ∧
        (result.duplicates.Pairwise (fun group other => group.members.Disjoint other.members) →
          (∀ group ∈ result.duplicates, 2 < group.members.length →
            group.duplicatedLines ≤ Duplication.memberLines model.bodies group) →
          result.duplicatedLines ≤ result.project.totalLinesOfCode)) ∧
      ∀ copies lines : Nat, ∃ model : Model, model.bodies.length = copies + 1 ∧
        ∀ deps : DependencyResult,
          let result := MetricsResult.ofDependencies config model deps
          result.project.totalLinesOfCode = lines ∧ result.duplicatedLines = copies * lines := by
  have inAnyCase (model : Model) (deps : DependencyResult) :
      (MetricsResult.ofDependencies config model deps).duplicatedLines ≤
        (model.bodies.length - 1) * model.linesOfCode :=
    (Duplication.sumOf_duplicatedLines_le _ model.bodies).trans
      (Nat.mul_le_mul_left _ model.sumOf_bodies_le)
  refine ⟨fun model deps => ?_, fun copies lines => ?_⟩
  · intro result
    rw [MetricsResult.totalLinesOfCode_eq]
    refine ⟨inAnyCase model deps, fun apart fair => ?_⟩
    exact (Duplication.sumOf_duplicatedLines_le_of_apart apart fair).trans model.sumOf_bodies_le
  · obtain ⟨model, length, total, claimed⟩ :=
      exists_claiming_every_copy (Duplication.ofConfig config.duplication) copies lines
    refine ⟨model, length, fun deps => ?_⟩
    have bound := inAnyCase model deps
    rw [length, total, Nat.add_sub_cancel] at bound
    exact ⟨(MetricsResult.totalLinesOfCode_eq config model deps).trans total, le_antisymm bound claimed⟩

/-- A body that is long enough to be compared. -/
def summing : String :=
  "\x7b int total = 0; for (int item : items) \x7b total += item; \x7d return total; \x7d"

theorem duplicates_layoutsOf (deps : DependencyResult) {methods : List (String × Nat)}
    (sorted : (methods.map (layoutBody summing)).Pairwise fun a b => (compare a.id b.id).isLE)
    (several : 1 < methods.length) :
    (MetricsResult.ofDependencies {} (.ofList [layoutsOf summing methods]) deps).duplicates =
      [Duplication.exactGroup ((methods.map (layoutBody summing)).map (Duplication.Entry.ofBody 50))] := by
  rw [MetricsResult.duplicates_eq, bodies_layoutsOf summing sorted]
  exact detect_layouts (by decide +kernel) several

theorem duplicated_lines_bounded_layouts :
    let model := Model.ofList [layoutsOf summing [("a", 7), ("b", 7), ("c", 5)]]
    let result := MetricsResult.ofDependencies {} model (DependencyResult.ofModel {} model [])
    (∃ group ∈ result.duplicates, 2 < group.members.length) ∧
      result.duplicatedLines ≤ (model.bodies.length - 1) * result.project.totalLinesOfCode ∧
      result.duplicatedLines ≤ result.project.totalLinesOfCode := by
  intro model result
  have found : result.duplicates = _ := duplicates_layoutsOf _ (by decide +kernel) (by decide)
  have several : ∃ group ∈ result.duplicates, 2 < group.members.length := by
    rw [found]
    exact ⟨_, List.mem_singleton_self _, by decide⟩
  have apart : result.duplicates.Pairwise fun group other => group.members.Disjoint other.members := by
    rw [found]
    exact List.pairwise_singleton _ _
  have fair : ∀ group ∈ result.duplicates, 2 < group.members.length →
      group.duplicatedLines ≤ Duplication.memberLines model.bodies group := by
    rw [found, bodies_layoutsOf summing (by decide +kernel)]
    intro group member _
    cases List.mem_singleton.mp member
    decide +kernel
  obtain ⟨bound, holds⟩ := (duplicated_lines_bounded {}).1 model (DependencyResult.ofModel {} model [])
  exact ⟨several, bound, holds apart fair⟩

/-- The first of three equal methods is laid out on more lines than the others have together. -/
theorem duplicated_lines_exceed_total :
    let model := Model.ofList [layoutsOf summing [("a", 7), ("b", 1), ("c", 1)]]
    let result := MetricsResult.ofDependencies {} model (DependencyResult.ofModel {} model [])
    result.project.totalLinesOfCode = 9 ∧ result.duplicatedLines = 14 ∧
      ¬result.duplicatedLines ≤ result.project.totalLinesOfCode := by
  intro model result
  have total : result.project.totalLinesOfCode = 9 := by decide +kernel
  have found : result.duplicates = _ := duplicates_layoutsOf _ (by decide +kernel) (by decide)
  have claimed : result.duplicatedLines = 14 := by
    rw [MetricsResult.duplicatedLines, found]
    decide
  exact ⟨total, claimed, by omega⟩

end CodeSurvey
