import Mathlib.Algebra.Order.Field.Rat
import CodeSurvey.Proofs.EditDistance
import CodeSurvey.Proofs.NameMap
import CodeSurvey.Proofs.Pairs

namespace CodeSurvey

theorem filterMap_ite {α β : Type} (p : α → Bool) (f : α → β) (items : List α) :
    items.filterMap (fun item => if p item then some (f item) else none) = (items.filter p).map f := by
  induction items with
  | nil => rfl
  | cons item rest ih => cases holds : p item <;> simp [holds, ih]

namespace Duplication

variable {κ : Type} [Scale κ]

/-- Bodies that differ have different digests. -/
def CollisionFree (bodies : List MethodBody) : Prop :=
  ∀ a ∈ bodies, ∀ b ∈ bodies, Digest.sha256 a.body = Digest.sha256 b.body → a.body = b.body

section ByDigest

/-- Puts an entry behind the others with its digest. -/
def addEntry (groups : NameMap (List Entry)) (entry : Entry) : NameMap (List Entry) :=
  match entry.digest with
  | some digest => groups.alter digest fun group => some (group.getD [] ++ [entry])
  | none => groups

theorem getElem?_addEntry (groups : NameMap (List Entry)) (entry : Entry) (digest : String) :
    (addEntry groups entry)[digest]? =
      if entry.digest = some digest then some (groups[digest]?.getD [] ++ [entry]) else groups[digest]? := by
  unfold addEntry
  cases own : entry.digest with
  | none => simp
  | some other =>
    simp only [Std.ExtTreeMap.getElem?_alter, Std.compare_eq_iff_eq, Option.some.injEq]
    by_cases same : other = digest
    · rw [if_pos same, if_pos same, same]
    · rw [if_neg same, if_neg same]

theorem getElem?_foldl_addEntry (entries : List Entry) (groups : NameMap (List Entry)) (digest : String) :
    (entries.foldl addEntry groups)[digest]? =
      if entries.filter (·.digest = some digest) = [] then groups[digest]?
      else some (groups[digest]?.getD [] ++ entries.filter (·.digest = some digest)) := by
  induction entries generalizing groups with
  | nil => simp
  | cons entry rest ih =>
    rw [List.foldl_cons, ih, getElem?_addEntry]
    by_cases same : entry.digest = some digest
    · by_cases last : rest.filter (·.digest = some digest) = []
      · simp [same, last]
      · simp [same, last]
    · simp [same]

theorem getElem?_byDigest (entries : List Entry) (digest : String) :
    (byDigest entries)[digest]? =
      if entries.filter (·.digest = some digest) = [] then none
      else some (entries.filter (·.digest = some digest)) := by
  have folded := getElem?_foldl_addEntry entries ∅ digest
  rw [Std.ExtTreeMap.getElem?_empty, Option.getD_none, List.nil_append] at folded
  exact folded

theorem values_byDigest (entries : List Entry) :
    (byDigest entries).values =
      (byDigest entries).keys.map fun digest => entries.filter (·.digest = some digest) := by
  rw [NameMap.values_eq_map_toList, ← Std.ExtTreeMap.map_fst_toList_eq_keys, List.map_map]
  refine List.map_congr_left fun group member => ?_
  have found : (byDigest entries)[group.1]? = some group.2 :=
    Std.ExtTreeMap.mem_toList_iff_getElem?_eq_some.mp member
  rw [getElem?_byDigest] at found
  exact (Option.some.inj (Option.ite_none_left_eq_some.mp found).2).symm

theorem mem_keys_byDigest {entries : List Entry} {digest : String} :
    digest ∈ (byDigest entries).keys ↔ ∃ entry ∈ entries, entry.digest = some digest := by
  rw [Std.ExtTreeMap.mem_keys, Std.ExtTreeMap.mem_iff_isSome_getElem?, getElem?_byDigest]
  by_cases none : entries.filter (·.digest = some digest) = []
  · rw [if_pos none]
    simpa using none
  · rw [if_neg none]
    simpa using none

end ByDigest

section Kinds

variable (limits : DuplicationLimits κ) (bodies : List MethodBody)

/-- What two entries form is settled by one test. -/
def alike (threshold : κ) (a b : Entry) : Bool :=
  !(sameDigest a b || tooDifferent threshold a.length b.length) &&
    (Scale.less threshold (similarity κ a.method.body b.method.body) &&
      Scale.less (similarity κ a.method.body b.method.body) (Scale.ofNat 1))

theorem compare?_eq (threshold : κ) (a b : Entry) :
    compare? threshold a b =
      if alike threshold a b then
        some (similarGroup a.method b.method (similarity κ a.method.body b.method.body))
      else none := by
  unfold compare? alike
  cases sameDigest a b || tooDifferent threshold a.length b.length <;> simp

theorem kind_of_mem_exactGroups {entries : List Entry} {group : DuplicationGroup κ}
    (member : group ∈ exactGroups entries) : group.kind = .exact := by
  obtain ⟨_, _, rfl⟩ := List.mem_map.mp member
  rfl

theorem kind_of_mem_similarGroups {threshold : κ} {entries : List Entry} {group : DuplicationGroup κ}
    (member : group ∈ similarGroups threshold entries) : group.kind = .similar := by
  rw [similarGroups] at member
  obtain ⟨pair, _, formed⟩ := List.mem_filterMap.mp member
  rw [compare?_eq] at formed
  obtain ⟨_, same⟩ := Option.ite_none_right_eq_some.mp formed
  cases same
  rfl

/-- Ranking the groups leaves the exact ones as they were found. -/
theorem filter_exact_detect :
    ((detect limits bodies).filter (·.kind = .exact)).Perm
      (exactGroups (bodies.map (Entry.ofBody limits.minBodyLength))) := by
  refine ((List.mergeSort_perm _ _).filter _).trans (.of_eq ?_)
  rw [List.filter_append, List.filter_eq_self.mpr, List.filter_eq_nil_iff.mpr, List.append_nil]
  · intro group member
    split at member
    · simp [kind_of_mem_similarGroups member]
    · cases member
  · intro group member
    simp [kind_of_mem_exactGroups member]

theorem filter_similar_detect :
    ((detect limits bodies).filter (·.kind = .similar)).Perm
      (if limits.detectSimilar then
        similarGroups limits.threshold (bodies.map (Entry.ofBody limits.minBodyLength))
      else []) := by
  refine ((List.mergeSort_perm _ _).filter _).trans (.of_eq ?_)
  rw [List.filter_append, List.filter_eq_nil_iff.mpr, List.nil_append, List.filter_eq_self.mpr]
  · intro group member
    split at member
    · simp [kind_of_mem_similarGroups member]
    · cases member
  · intro group member
    simp [kind_of_mem_exactGroups member]

end Kinds

/-- The entries with one body that is long enough to be compared, at least two of them, in their order. -/
def IsClass (minBodyLength : Nat) (bodies : List MethodBody) (places : List (Fin bodies.length)) : Prop :=
  2 ≤ places.length ∧ ∃ body : String, minBodyLength < body.length ∧
    places = (List.finRange bodies.length).filter fun i => (bodies.get i).body = body

section Classes

variable (minBodyLength : Nat) (bodies : List MethodBody)

def entryAt (i : Fin bodies.length) : Entry :=
  Entry.ofBody minBodyLength (bodies.get i)

/-- The entries with one digest. -/
def withDigest (digest : String) : List (Fin bodies.length) :=
  (List.finRange bodies.length).filter fun i => (entryAt minBodyLength bodies i).digest = some digest

def classes : List (List (Fin bodies.length)) :=
  ((byDigest (bodies.map (Entry.ofBody minBodyLength))).keys.map (withDigest minBodyLength bodies)).filter
    fun places => 1 < places.length

theorem map_entryAt :
    (List.finRange bodies.length).map (entryAt minBodyLength bodies) =
      bodies.map (Entry.ofBody minBodyLength) := by
  conv_rhs => rw [← List.map_get_finRange bodies, List.map_map]
  rfl

theorem filter_digest (digest : String) :
    (bodies.map (Entry.ofBody minBodyLength)).filter (·.digest = some digest) =
      (withDigest minBodyLength bodies digest).map (entryAt minBodyLength bodies) := by
  rw [← map_entryAt, List.filter_map]
  rfl

theorem exactGroups_eq_map :
    (exactGroups (bodies.map (Entry.ofBody minBodyLength)) : List (DuplicationGroup κ)) =
      (classes minBodyLength bodies).map fun places => exactGroup (places.map (entryAt minBodyLength bodies)) := by
  rw [exactGroups, values_byDigest]
  simp only [filter_digest]
  rw [classes, List.filter_map, List.filter_map, List.map_map, List.map_map]
  simp only [Function.comp_def, List.length_map]

theorem members_exactGroups :
    (exactGroups (bodies.map (Entry.ofBody minBodyLength)) : List (DuplicationGroup κ)).map (·.members) =
      (classes minBodyLength bodies).map (·.map fun i => (bodies.get i).id) := by
  rw [exactGroups_eq_map, List.map_map]
  refine List.map_congr_left fun places _ => ?_
  rw [Function.comp_apply, exactGroup, List.map_map]
  rfl

variable {minBodyLength bodies}

theorem digest_entryAt {i : Fin bodies.length} {digest : String} :
    (entryAt minBodyLength bodies i).digest = some digest ↔
      minBodyLength < (bodies.get i).body.length ∧ Digest.sha256 (bodies.get i).body = digest := by
  simp [entryAt, Entry.ofBody]

theorem mem_withDigest {i : Fin bodies.length} {digest : String} :
    i ∈ withDigest minBodyLength bodies digest ↔
      minBodyLength < (bodies.get i).body.length ∧ Digest.sha256 (bodies.get i).body = digest := by
  rw [withDigest, List.mem_filter, decide_eq_true_iff, digest_entryAt]
  simp

/-- Without collisions, those with the digest of a long body are those with that body. -/
theorem withDigest_eq (free : CollisionFree bodies) {i : Fin bodies.length}
    (long : minBodyLength < (bodies.get i).body.length) :
    withDigest minBodyLength bodies (Digest.sha256 (bodies.get i).body) =
      (List.finRange bodies.length).filter fun j => (bodies.get j).body = (bodies.get i).body := by
  refine List.filter_congr fun j _ => decide_eq_decide.mpr ?_
  rw [digest_entryAt]
  constructor
  · rintro ⟨_, same⟩
    exact free _ (List.get_mem bodies j) _ (List.get_mem bodies i) same
  · intro same
    rw [same]
    exact ⟨long, rfl⟩

theorem mem_classes (free : CollisionFree bodies) {places : List (Fin bodies.length)} :
    places ∈ classes minBodyLength bodies ↔ IsClass minBodyLength bodies places := by
  rw [classes, List.mem_filter, List.mem_map, decide_eq_true_iff]
  constructor
  · rintro ⟨⟨digest, _, rfl⟩, several⟩
    obtain ⟨i, member⟩ := List.exists_mem_of_length_pos (Nat.zero_lt_of_lt several)
    obtain ⟨long, rfl⟩ := mem_withDigest.mp member
    exact ⟨several, _, long, withDigest_eq free long⟩
  · rintro ⟨several, body, long, rfl⟩
    obtain ⟨i, member⟩ := List.exists_mem_of_length_pos (Nat.zero_lt_of_lt several)
    obtain rfl : (bodies.get i).body = body := by simpa using member
    refine ⟨⟨Digest.sha256 (bodies.get i).body, ?_, withDigest_eq free long⟩, several⟩
    refine mem_keys_byDigest.mpr ⟨entryAt minBodyLength bodies i, ?_, digest_entryAt.mpr ⟨long, rfl⟩⟩
    exact List.mem_map.mpr ⟨bodies.get i, List.get_mem bodies i, rfl⟩

variable (minBodyLength bodies) in
theorem classes_disjoint : (classes minBodyLength bodies).Pairwise List.Disjoint := by
  have distinct := NameMap.keys_ascending (byDigest (bodies.map (Entry.ofBody minBodyLength)))
  refine .filter _ (List.pairwise_map.mpr (distinct.imp fun before i first second => before.ne ?_))
  exact (mem_withDigest.mp first).2.symm.trans (mem_withDigest.mp second).2

variable (minBodyLength bodies) in
theorem classes_nodup : (classes minBodyLength bodies).Nodup := by
  refine (classes_disjoint minBodyLength bodies).imp_of_mem fun {places _} member _ disjoint same => ?_
  have several : 1 < places.length := by simpa [classes] using (List.mem_filter.mp member).2
  obtain ⟨i, inside⟩ := List.exists_mem_of_length_pos (Nat.zero_lt_of_lt several)
  exact disjoint inside (same ▸ inside)

end Classes

section Pairs

variable (limits : DuplicationLimits κ) (bodies : List MethodBody)

/-- The group that the entries at two places form. -/
def pairGroup (pair : Fin bodies.length × Fin bodies.length) : DuplicationGroup κ :=
  similarGroup (bodies.get pair.1) (bodies.get pair.2)
    (similarity κ (bodies.get pair.1).body (bodies.get pair.2).body)

def alikePairs : List (Fin bodies.length × Fin bodies.length) :=
  (orderedPairs (List.finRange bodies.length)).filter fun pair =>
    alike limits.threshold (entryAt limits.minBodyLength bodies pair.1)
      (entryAt limits.minBodyLength bodies pair.2)

theorem similarGroups_eq_map :
    similarGroups limits.threshold (bodies.map (Entry.ofBody limits.minBodyLength)) =
      (alikePairs limits bodies).map (pairGroup bodies) := by
  rw [similarGroups, ← map_entryAt, orderedPairs_map, List.filterMap_map, alikePairs, ← filterMap_ite]
  refine List.filterMap_congr fun pair _ => ?_
  rw [Function.comp_apply, compare?_eq]
  rfl

theorem alikePairs_nodup : (alikePairs limits bodies).Nodup :=
  (orderedPairs_nodup (List.nodup_finRange bodies.length)).filter _

variable {limits bodies}

theorem mem_alikePairs {pair : Fin bodies.length × Fin bodies.length} :
    pair ∈ alikePairs limits bodies ↔ pair.1 < pair.2 ∧
      alike limits.threshold (entryAt limits.minBodyLength bodies pair.1)
        (entryAt limits.minBodyLength bodies pair.2) := by
  rw [alikePairs, List.mem_filter, mem_orderedPairs_finRange]

theorem sameDigest_of_mem {minBodyLength : Nat} {places : List (Fin bodies.length)}
    (isClass : IsClass minBodyLength bodies places) {i j : Fin bodies.length} (first : i ∈ places)
    (second : j ∈ places) : sameDigest (entryAt minBodyLength bodies i) (entryAt minBodyLength bodies j) := by
  obtain ⟨_, body, long, rfl⟩ := isClass
  obtain rfl : (bodies.get i).body = body := by simpa using first
  have same : (bodies.get j).body = (bodies.get i).body := by simpa using second
  have atFirst := (digest_entryAt (i := i)).mpr ⟨long, rfl⟩
  have atSecond := (digest_entryAt (i := j)).mpr ⟨same ▸ long, congrArg Digest.sha256 same⟩
  simp [sameDigest, atFirst, atSecond]

/-- Entries of one class are equal and not merely alike. -/
theorem not_mem_class_of_mem_alikePairs {pair : Fin bodies.length × Fin bodies.length}
    (member : pair ∈ alikePairs limits bodies) {places : List (Fin bodies.length)}
    (isClass : IsClass limits.minBodyLength bodies places) : ¬(pair.1 ∈ places ∧ pair.2 ∈ places) := by
  rintro ⟨first, second⟩
  obtain ⟨_, formed⟩ := mem_alikePairs.mp member
  simp [alike, sameDigest_of_mem isClass first second] at formed

end Pairs

/-- The exact groups are the classes of equal bodies, and the similar ones are pairs of entries that lie in
no common class. -/
structure Classifies (limits : DuplicationLimits κ) (bodies : List MethodBody)
    (groups : List (DuplicationGroup κ)) : Prop where
  exact : ∃ classes : List (List (Fin bodies.length)),
    classes.Nodup ∧ (∀ places, places ∈ classes ↔ IsClass limits.minBodyLength bodies places) ∧
      classes.Pairwise List.Disjoint ∧
      ((groups.filter (·.kind = .exact)).map (·.members)).Perm
        (classes.map (·.map fun i => (bodies.get i).id))
  similar : ∃ pairs : List (Fin bodies.length × Fin bodies.length),
    pairs.Nodup ∧
      (∀ pair ∈ pairs, pair.1 < pair.2 ∧ ∀ places, IsClass limits.minBodyLength bodies places →
        ¬(pair.1 ∈ places ∧ pair.2 ∈ places)) ∧
      (groups.filter (·.kind = .similar)).Perm (pairs.map (pairGroup bodies))
  off : limits.detectSimilar = false → ∀ group ∈ groups, group.kind ≠ .similar

theorem duplicates_are_classified (limits : DuplicationLimits κ) (bodies : List MethodBody)
    (free : CollisionFree bodies) : Classifies limits bodies (detect limits bodies) where
  exact := by
    refine ⟨classes limits.minBodyLength bodies, classes_nodup _ bodies, fun _ => mem_classes free,
      classes_disjoint _ bodies, ?_⟩
    have found := (filter_exact_detect limits bodies).map (·.members)
    rwa [members_exactGroups] at found
  similar := by
    have found := filter_similar_detect limits bodies
    cases search : limits.detectSimilar with
    | false =>
      rw [search, if_neg Bool.false_ne_true] at found
      exact ⟨[], .nil, by simp, found⟩
    | true =>
      rw [search, if_pos rfl, similarGroups_eq_map] at found
      refine ⟨alikePairs limits bodies, alikePairs_nodup limits bodies, fun pair member => ?_, found⟩
      exact ⟨(mem_alikePairs.mp member).1, fun _ => not_mem_class_of_mem_alikePairs member⟩
  off := by
    intro search group member similar
    have found := filter_similar_detect limits bodies
    rw [search, if_neg Bool.false_ne_true, List.perm_nil, List.filter_eq_nil_iff] at found
    exact found group member (decide_eq_true similar)

/-- Exact quotients. -/
instance : Scale ℚ where
  ofNat n := n
  add := (· + ·)
  sub := (· - ·)
  mul := (· * ·)
  div := (· / ·)
  less a b := a < b
  atMost a b := a ≤ b
  rank := compare

/-- Two equal bodies and one that differs from them in a character. -/
def copies : List MethodBody :=
  [⟨"A.a()", "abcd", 3, 1⟩, ⟨"B.b()", "abce", 3, 2⟩, ⟨"C.c()", "abcd", 3, 1⟩]

theorem copies_collisionFree : CollisionFree copies := by
  have covered : ∀ a ∈ copies, a.body ∈ ["abcd", "abce"] := by decide
  have distinct : (["abcd", "abce"].map Digest.sha256).Nodup := by decide +kernel
  intro a first b second same
  exact List.inj_on_of_nodup_map distinct (covered a first) (covered b second) same

theorem duplicates_are_classified_copies :
    CollisionFree copies ∧ IsClass 2 copies [⟨0, by decide⟩, ⟨2, by decide⟩] ∧
      ∃ group ∈ detect ⟨(1 / 2 : ℚ), 2, true⟩ copies, group.kind = .exact ∧
        group.members = ["A.a()", "C.c()"] := by
  have isClass : IsClass 2 copies [⟨0, by decide⟩, ⟨2, by decide⟩] := ⟨by decide, "abcd", by decide, by decide⟩
  obtain ⟨classes, _, exactly, _, found⟩ :=
    (duplicates_are_classified ⟨(1 / 2 : ℚ), 2, true⟩ copies copies_collisionFree).exact
  have listed := found.mem_iff.mpr (List.mem_map.mpr ⟨_, (exactly _).mpr isClass, rfl⟩)
  obtain ⟨group, kept, members⟩ := List.mem_map.mp listed
  obtain ⟨member, kind⟩ := List.mem_filter.mp kept
  exact ⟨copies_collisionFree, isClass, group, member, of_decide_eq_true kind, members⟩

/-- The comparison of two bodies without any test before it. -/
def compareFully? (threshold : κ) (a b : MethodBody) : Option (DuplicationGroup κ) :=
  let likeness := similarity κ a.body b.body
  if Scale.less threshold likeness && Scale.less likeness (Scale.ofNat 1) then
    some (similarGroup a b likeness)
  else none

/-- Two texts, not both empty, that share more than the given part of the longer one, but not all of it. -/
def Alike (threshold : ℚ) (a b : String) : Prop :=
  let longest : Nat := max a.length b.length
  let likeness : ℚ := 1 - EditDistance.levenshtein a b / longest
  0 < longest ∧ threshold < likeness ∧ likeness < 1

section Rational

theorem similarity_of_nonempty {a b : String} (nonempty : 0 < max a.length b.length) :
    similarity ℚ a b = 1 - (EditDistance.levenshtein a b : ℚ) / (max a.length b.length : Nat) := by
  rw [similarity, if_neg nonempty.ne', EditDistance.distance_eq_levenshtein]
  rfl

theorem similarity_of_empty {a b : String} (empty : max a.length b.length = 0) : similarity ℚ a b = 1 := by
  rw [similarity, if_pos empty]
  exact Nat.cast_one

theorem similarity_self (a : String) : similarity ℚ a a = 1 := by
  rcases Nat.eq_zero_or_pos (max a.length a.length) with empty | nonempty
  · exact similarity_of_empty empty
  · rw [similarity_of_nonempty nonempty, ← EditDistance.distance_eq_levenshtein, EditDistance.distance_self]
    simp

/-- What two texts share is no longer than the shorter one. -/
theorem similarity_le {a b : String} (nonempty : 0 < max a.length b.length) :
    similarity ℚ a b ≤ (min a.length b.length : Nat) / (max a.length b.length : Nat) := by
  have changes := (EditDistance.distance_isLeast a.toList b.toList).1.length_le
  rw [EditDistance.distance_eq_levenshtein, String.length_toList, String.length_toList] at changes
  have covered : max a.length b.length ≤ min a.length b.length + EditDistance.levenshtein a b := by omega
  have positive : (0 : ℚ) < (max a.length b.length : Nat) := Nat.cast_pos.mpr nonempty
  rw [similarity_of_nonempty nonempty, sub_le_iff_le_add, ← add_div, le_div_iff₀ positive, one_mul]
  exact_mod_cast covered

theorem not_alike_of_tooDifferent {threshold : ℚ} {a b : String}
    (apart : tooDifferent threshold a.length b.length) :
    ¬(threshold < similarity ℚ a b ∧ similarity ℚ a b < 1) := by
  rintro ⟨above, below⟩
  rcases Nat.eq_zero_or_pos (max a.length b.length) with empty | nonempty
  · exact below.ne (similarity_of_empty empty)
  · simp only [tooDifferent, beq_eq_false_iff_ne.mpr nonempty.ne', Bool.false_or] at apart
    have ratio : ((min a.length b.length : Nat) : ℚ) / (max a.length b.length : Nat) ≤ threshold :=
      of_decide_eq_true apart
    exact absurd above (not_lt.mpr ((similarity_le nonempty).trans ratio))

theorem sha256_eq_of_sameDigest {minBodyLength : Nat} {a b : MethodBody}
    (same : sameDigest (Entry.ofBody minBodyLength a) (Entry.ofBody minBodyLength b)) :
    Digest.sha256 a.body = Digest.sha256 b.body := by
  unfold sameDigest at same
  split at same
  · next digest other first second =>
    have atFirst : some (Digest.sha256 a.body) = some digest := (Option.ite_none_right_eq_some.mp first).2
    have atSecond : some (Digest.sha256 b.body) = some other := (Option.ite_none_right_eq_some.mp second).2
    rw [Option.some.inj atFirst, Option.some.inj atSecond, beq_iff_eq.mp same]
  · cases same

theorem compareFully?_eq (threshold : ℚ) (a b : MethodBody) :
    compareFully? threshold a b =
      if threshold < similarity ℚ a.body b.body ∧ similarity ℚ a.body b.body < 1 then
        some (similarGroup a b (similarity ℚ a.body b.body))
      else none := by
  simp [compareFully?, Scale.less, Scale.ofNat]

/-- Neither test turns a pair away that the comparison would accept. -/
theorem compare?_eq_compareFully? {a b : MethodBody}
    (free : Digest.sha256 a.body = Digest.sha256 b.body → a.body = b.body) (threshold : ℚ)
    (minBodyLength : Nat) :
    compare? threshold (Entry.ofBody minBodyLength a) (Entry.ofBody minBodyLength b) =
      compareFully? threshold a b := by
  unfold compare?
  split
  · next skipped =>
    rw [compareFully?_eq, if_neg]
    rcases (Bool.or_eq_true ..).mp skipped with same | apart
    · rw [free (sha256_eq_of_sameDigest same), similarity_self]
      exact fun alike => lt_irrefl 1 alike.2
    · exact not_alike_of_tooDifferent apart
  · rfl

theorem alike_iff {threshold : ℚ} {a b : String} :
    Alike threshold a b ↔ threshold < similarity ℚ a b ∧ similarity ℚ a b < 1 := by
  rcases Nat.eq_zero_or_pos (max a.length b.length) with empty | nonempty
  · rw [similarity_of_empty empty]
    simp [Alike, empty]
  · rw [similarity_of_nonempty nonempty]
    exact and_iff_right nonempty

/-- The pairs that are found are those whose texts are alike. -/
theorem mem_alikePairs_iff {bodies : List MethodBody} (free : CollisionFree bodies)
    {limits : DuplicationLimits ℚ} {i j : Fin bodies.length} :
    (i, j) ∈ alikePairs limits bodies ↔
      i < j ∧ Alike limits.threshold (bodies.get i).body (bodies.get j).body := by
  rw [mem_alikePairs, alike_iff]
  refine and_congr_right fun _ => ?_
  have compared := compare?_eq_compareFully?
    (free _ (List.get_mem bodies i) _ (List.get_mem bodies j)) limits.threshold limits.minBodyLength
  rw [compare?_eq, compareFully?_eq] at compared
  have formed := congrArg Option.isSome compared
  rwa [Bool.eq_iff_iff, Option.isSome_ite, Option.isSome_ite] at formed

end Rational

/-- The similar groups are one for each pair of alike bodies: the same that comparing all pairs would find. -/
theorem similar_groups_are_complete (threshold : ℚ) (minBodyLength : Nat) (bodies : List MethodBody)
    (free : CollisionFree bodies) :
    let found := (detect ⟨threshold, minBodyLength, true⟩ bodies).filter (·.kind = .similar)
    (∃ pairs : List (Fin bodies.length × Fin bodies.length),
      pairs.Nodup ∧
        (∀ i j, (i, j) ∈ pairs ↔ i < j ∧ Alike threshold (bodies.get i).body (bodies.get j).body) ∧
        found.Perm (pairs.map (pairGroup bodies))) ∧
      found.Perm ((orderedPairs bodies).filterMap fun pair => compareFully? threshold pair.1 pair.2) := by
  intro found
  have listed : found.Perm (similarGroups threshold (bodies.map (Entry.ofBody minBodyLength))) :=
    filter_similar_detect ⟨threshold, minBodyLength, true⟩ bodies
  constructor
  · refine ⟨alikePairs ⟨threshold, minBodyLength, true⟩ bodies, alikePairs_nodup _ bodies,
      fun _ _ => mem_alikePairs_iff free, ?_⟩
    rwa [← similarGroups_eq_map]
  · refine listed.trans (.of_eq ?_)
    rw [similarGroups, orderedPairs_map, List.filterMap_map]
    refine List.filterMap_congr fun pair member => ?_
    obtain ⟨first, second⟩ := mem_of_mem_orderedPairs member
    exact compare?_eq_compareFully? (free _ first _ second) threshold minBodyLength

theorem similar_groups_are_complete_copies :
    CollisionFree copies ∧ Alike (1 / 2) "abcd" "abce" ∧
      ∃ group ∈ detect ⟨(1 / 2 : ℚ), 2, true⟩ copies, group.kind = .similar ∧
        group.members = ["A.a()", "B.b()"] ∧ group.similarity = 3 / 4 := by
  have alike : Alike (1 / 2) "abcd" "abce" := alike_iff.mpr (by decide +kernel)
  obtain ⟨⟨pairs, _, exactly, found⟩, _⟩ :=
    similar_groups_are_complete (1 / 2) 2 copies copies_collisionFree
  have pair := (exactly ⟨0, by decide⟩ ⟨1, by decide⟩).mpr ⟨by decide, alike⟩
  have listed := found.mem_iff.mpr (List.mem_map.mpr ⟨_, pair, rfl⟩)
  obtain ⟨member, kind⟩ := List.mem_filter.mp listed
  exact ⟨copies_collisionFree, alike, _, member, of_decide_eq_true kind, rfl, by decide +kernel⟩

end Duplication

end CodeSurvey
