import Mathlib.Order.Lattice.Nat
import Mathlib.Order.MinMax
import CodeSurvey.Duplication

namespace CodeSurvey.EditDistance

/-- One character is put in, taken out or replaced. -/
inductive Change : List Char → List Char → Prop
  | insert (front back : List Char) (d : Char) : Change (front ++ back) (front ++ d :: back)
  | delete (front back : List Char) (c : Char) : Change (front ++ c :: back) (front ++ back)
  | replace (front back : List Char) (c d : Char) : Change (front ++ c :: back) (front ++ d :: back)

/-- So many changes, one after the other. -/
inductive Changes : Nat → List Char → List Char → Prop
  | none (cs : List Char) : Changes 0 cs cs
  | more {n : Nat} {cs ds es : List Char} : Changes n cs ds → Change ds es → Changes (n + 1) cs es

/-- So many changes in one pass from left to right, in which all other characters are kept. -/
inductive Aligned : Nat → List Char → List Char → Prop
  | nil : Aligned 0 [] []
  | keep {n : Nat} {cs ds : List Char} (c : Char) : Aligned n cs ds → Aligned n (c :: cs) (c :: ds)
  | replace {n : Nat} {cs ds : List Char} (c d : Char) :
      Aligned n cs ds → Aligned (n + 1) (c :: cs) (d :: ds)
  | insert {n : Nat} {cs ds : List Char} (d : Char) : Aligned n cs ds → Aligned (n + 1) cs (d :: ds)
  | delete {n : Nat} {cs ds : List Char} (c : Char) : Aligned n cs ds → Aligned (n + 1) (c :: cs) ds

theorem Change.cons {cs ds : List Char} (change : Change cs ds) (c : Char) : Change (c :: cs) (c :: ds) := by
  cases change with
  | insert front back d => exact .insert (c :: front) back d
  | delete front back d => exact .delete (c :: front) back d
  | replace front back d e => exact .replace (c :: front) back d e

/-- A change is made at one place, where at most one character stood and at most one stands then. -/
theorem Change.exists_parts {cs ds : List Char} (change : Change cs ds) :
    ∃ front old new back, old.length ≤ 1 ∧ new.length ≤ 1 ∧
      cs = front ++ (old ++ back) ∧ ds = front ++ (new ++ back) := by
  cases change with
  | insert front back d => exact ⟨front, [], [d], back, by simp, by simp, rfl, rfl⟩
  | delete front back c => exact ⟨front, [c], [], back, by simp, by simp, rfl, rfl⟩
  | replace front back c d => exact ⟨front, [c], [d], back, by simp, by simp, rfl, rfl⟩

theorem Changes.cons {n : Nat} {cs ds : List Char} (changes : Changes n cs ds) (c : Char) :
    Changes n (c :: cs) (c :: ds) := by
  induction changes with
  | none cs => exact .none (c :: cs)
  | more _ change ih => exact .more ih (change.cons c)

/-- A change adds or takes away one character at most. -/
theorem Changes.length_le {n : Nat} {cs ds : List Char} (changes : Changes n cs ds) :
    cs.length ≤ ds.length + n ∧ ds.length ≤ cs.length + n := by
  induction changes with
  | none cs => simp
  | more _ change ih =>
    obtain ⟨front, old, new, back, oldShort, newShort, rfl, rfl⟩ := change.exists_parts
    simp only [List.length_append] at ih ⊢
    omega

namespace Aligned

variable {n : Nat} {cs ds : List Char}

theorem changes (aligned : Aligned n cs ds) : Changes n cs ds := by
  induction aligned with
  | nil => exact .none []
  | keep c _ ih => exact ih.cons c
  | @replace _ _ ds c d _ ih => exact .more (ih.cons c) (.replace [] ds c d)
  | @insert _ _ ds d _ ih => exact .more ih (.insert [] ds d)
  | @delete _ _ ds c _ ih => exact .more (ih.cons c) (.delete [] ds c)

theorem refl (cs : List Char) : Aligned 0 cs cs := by
  induction cs with
  | nil => exact .nil
  | cons c cs ih => exact ih.keep c

theorem insertAll (ds : List Char) : Aligned ds.length [] ds := by
  induction ds with
  | nil => exact .nil
  | cons d ds ih => exact ih.insert d

theorem deleteAll (cs : List Char) : Aligned cs.length cs [] := by
  induction cs with
  | nil => exact .nil
  | cons c cs ih => exact ih.delete c

theorem append (aligned : Aligned n cs ds) {m : Nat} {cs' ds' : List Char} (rest : Aligned m cs' ds') :
    Aligned (n + m) (cs ++ cs') (ds ++ ds') := by
  induction aligned with
  | nil => simpa using rest
  | keep c _ ih => exact ih.keep c
  | @replace k _ _ c d _ ih =>
    rw [Nat.add_right_comm]
    exact ih.replace c d
  | @insert k _ _ d _ ih =>
    rw [Nat.add_right_comm]
    exact ih.insert d
  | @delete k _ _ c _ ih =>
    rw [Nat.add_right_comm]
    exact ih.delete c

theorem reverse (aligned : Aligned n cs ds) : Aligned n cs.reverse ds.reverse := by
  induction aligned with
  | nil => exact .nil
  | keep c _ ih => simpa using ih.append (.keep c .nil)
  | replace c d _ ih => simpa using ih.append (.replace c d .nil)
  | insert d _ ih => simpa using ih.append (.insert d .nil)
  | delete c _ ih => simpa using ih.append (.delete c .nil)

/-- What a pass makes of a text can be cut anywhere, and the pass with it. -/
theorem split {front back : List Char} (aligned : Aligned n cs (front ++ back)) :
    ∃ k m cs₁ cs₂, n = k + m ∧ cs = cs₁ ++ cs₂ ∧ Aligned k cs₁ front ∧ Aligned m cs₂ back := by
  generalize whole : front ++ back = ds at aligned
  induction aligned generalizing front with
  | nil =>
    obtain ⟨rfl, rfl⟩ := List.append_eq_nil_iff.mp whole
    exact ⟨0, 0, [], [], rfl, rfl, .nil, .nil⟩
  | @keep n cs ds c aligned ih =>
    rcases List.append_eq_cons_iff.mp whole with ⟨rfl, rfl⟩ | ⟨front, rfl, rfl⟩
    · exact ⟨0, n, [], c :: cs, by omega, rfl, .nil, aligned.keep c⟩
    · obtain ⟨k, m, cs₁, cs₂, rfl, rfl, first, second⟩ := ih rfl
      exact ⟨k, m, c :: cs₁, cs₂, rfl, rfl, first.keep c, second⟩
  | @replace n cs ds c d aligned ih =>
    rcases List.append_eq_cons_iff.mp whole with ⟨rfl, rfl⟩ | ⟨front, rfl, rfl⟩
    · exact ⟨0, n + 1, [], c :: cs, by omega, rfl, .nil, aligned.replace c d⟩
    · obtain ⟨k, m, cs₁, cs₂, rfl, rfl, first, second⟩ := ih rfl
      exact ⟨k + 1, m, c :: cs₁, cs₂, by omega, rfl, first.replace c d, second⟩
  | @insert n cs ds d aligned ih =>
    rcases List.append_eq_cons_iff.mp whole with ⟨rfl, rfl⟩ | ⟨front, rfl, rfl⟩
    · exact ⟨0, n + 1, [], cs, by omega, rfl, .nil, aligned.insert d⟩
    · obtain ⟨k, m, cs₁, cs₂, rfl, rfl, first, second⟩ := ih rfl
      exact ⟨k + 1, m, cs₁, cs₂, by omega, rfl, first.insert d, second⟩
  | @delete n cs ds c aligned ih =>
    obtain ⟨k, m, cs₁, cs₂, rfl, rfl, first, second⟩ := ih whole
    exact ⟨k + 1, m, c :: cs₁, cs₂, by omega, rfl, first.delete c, second⟩

/-- Every text can be written over with another. -/
theorem overwrite (cs ds : List Char) : Aligned (max cs.length ds.length) cs ds := by
  induction cs generalizing ds with
  | nil => simpa using insertAll ds
  | cons c cs ih =>
    cases ds with
    | nil => simpa using deleteAll (c :: cs)
    | cons d ds =>
      rw [List.length_cons, List.length_cons, Nat.add_max_add_right]
      exact (ih ds).replace c d

/-- One more change, wherever it is made, costs a pass one more change at most: where the character stood, the
pass is made anew. -/
theorem change {es : List Char} (aligned : Aligned n cs ds) (change : Change ds es) :
    ∃ m ≤ n + 1, Aligned m cs es := by
  obtain ⟨front, old, new, back, oldShort, newShort, rfl, rfl⟩ := change.exists_parts
  obtain ⟨k, m, cs₁, _, rfl, rfl, first, later⟩ := aligned.split
  obtain ⟨m, l, cs₂, cs₃, rfl, rfl, middle, last⟩ := later.split
  have short := middle.changes.length_le.1
  have written := overwrite cs₂ new
  exact ⟨k + (max cs₂.length new.length + l), by omega, first.append (written.append last)⟩

end Aligned

theorem Changes.exists_aligned {n : Nat} {cs ds : List Char} (changes : Changes n cs ds) :
    ∃ m ≤ n, Aligned m cs ds := by
  induction changes with
  | none cs => exact ⟨0, le_rfl, .refl cs⟩
  | more _ change ih =>
    obtain ⟨m, bound, aligned⟩ := ih
    obtain ⟨m', step, longer⟩ := aligned.change change
    exact ⟨m', by omega, longer⟩

/-- The recurrence behind the table, on texts that are read backwards. -/
def cost : List Char → List Char → Nat
  | [], ds => ds.length
  | c :: cs, [] => (c :: cs).length
  | c :: cs, d :: ds =>
    min (min (cost (c :: cs) ds + 1) (cost cs (d :: ds) + 1)) (cost cs ds + if c = d then 0 else 1)

theorem cost_nil_right (cs : List Char) : cost cs [] = cs.length := by
  cases cs <;> simp [cost]

theorem aligned_cost (cs ds : List Char) : Aligned (cost cs ds) cs ds := by
  fun_induction cost cs ds with
  | case1 ds => exact .insertAll ds
  | case2 c cs => exact .deleteAll (c :: cs)
  | case3 c cs d ds inserted deleted kept =>
    rcases min_choice (min (cost (c :: cs) ds + 1) (cost cs (d :: ds) + 1))
      (cost cs ds + if c = d then 0 else 1) with outer | outer
    · rw [outer]
      rcases min_choice (cost (c :: cs) ds + 1) (cost cs (d :: ds) + 1) with inner | inner
      · rw [inner]
        exact inserted.insert d
      · rw [inner]
        exact deleted.delete c
    · rw [outer]
      by_cases same : c = d
      · subst same
        rw [if_pos rfl]
        exact kept.keep c
      · rw [if_neg same]
        exact kept.replace c d

theorem cost_le {n : Nat} {cs ds : List Char} (aligned : Aligned n cs ds) : cost cs ds ≤ n := by
  induction aligned with
  | nil => simp [cost]
  | @keep n cs ds c _ ih =>
    rw [cost, if_pos rfl]
    omega
  | @replace n cs ds c d _ ih =>
    rw [cost]
    split <;> omega
  | @insert n cs ds d _ ih =>
    cases cs with
    | nil =>
      simp only [cost, List.length_cons] at ih ⊢
      omega
    | cons c cs =>
      rw [cost]
      omega
  | @delete n cs ds c _ ih =>
    cases ds with
    | nil =>
      simp only [cost_nil_right, List.length_cons] at ih ⊢
      omega
    | cons d ds =>
      rw [cost]
      omega

/-- A row of the table: the costs from one beginning of the first text, read backwards, to what has been read
of the second and to each longer beginning of it. -/
def costsFrom (before : List Char) : List Char → List Char → List Nat
  | read, [] => [cost before read]
  | read, d :: ds => cost before read :: costsFrom before (d :: read) ds

theorem costsFrom_eq_cons (before read ds : List Char) :
    costsFrom before read ds = cost before read :: (costsFrom before read ds).tail := by
  cases ds <;> rfl

theorem costsFrom_nil (read ds : List Char) :
    costsFrom [] read ds = List.range' read.length (ds.length + 1) := by
  induction ds generalizing read with
  | nil => simp [costsFrom, cost]
  | cons d ds ih =>
    rw [costsFrom, ih, cost, List.length_cons, List.length_cons, ← List.range'_succ]

theorem getLastD_costsFrom (before read ds : List Char) :
    (costsFrom before read ds).getLastD 0 = cost before (ds.reverse ++ read) := by
  induction ds generalizing read with
  | nil => rfl
  | cons d ds ih =>
    have later := ih (d :: read)
    rw [costsFrom_eq_cons] at later
    rw [costsFrom, costsFrom_eq_cons, List.reverse_cons, List.append_assoc, List.singleton_append, ← later]
    rfl

theorem extendRow_costs (c : Char) (before read ds : List Char) :
    extendRow c (cost (c :: before) read) (cost before read) ds (costsFrom before read ds).tail =
      (costsFrom (c :: before) read ds).tail := by
  induction ds generalizing read with
  | nil => rfl
  | cons d ds ih =>
    have later := ih (d :: read)
    rw [costsFrom, costsFrom, List.tail_cons, List.tail_cons, costsFrom_eq_cons before,
      costsFrom_eq_cons (c :: before), extendRow]
    rw [cost] at later ⊢
    rw [later]

theorem nextRow_costs (c : Char) (before ds : List Char) :
    nextRow ds (costsFrom before [] ds) c = costsFrom (c :: before) [] ds := by
  have longer : cost before [] + 1 = cost (c :: before) [] := by
    rw [cost_nil_right, cost_nil_right, List.length_cons]
  rw [costsFrom_eq_cons before, costsFrom_eq_cons (c :: before)]
  simp only [nextRow, longer, extendRow_costs]

theorem foldl_nextRow (cs before ds : List Char) :
    cs.foldl (nextRow ds) (costsFrom before [] ds) = costsFrom (cs.reverse ++ before) [] ds := by
  induction cs generalizing before with
  | nil => rfl
  | cons c cs ih =>
    rw [List.foldl_cons, nextRow_costs, ih, List.reverse_cons, List.append_assoc, List.singleton_append]

theorem distance_eq_cost (cs ds : List Char) : distance cs ds = cost cs.reverse ds.reverse := by
  have first : List.range (ds.length + 1) = costsFrom [] [] ds := by
    rw [costsFrom_nil, List.range_eq_range', List.length_nil]
  rw [distance, first, foldl_nextRow, getLastD_costsFrom, List.append_nil, List.append_nil]

theorem distance_isLeast (cs ds : List Char) : IsLeast {n | Changes n cs ds} (distance cs ds) := by
  rw [distance_eq_cost]
  constructor
  · have aligned := (aligned_cost cs.reverse ds.reverse).reverse
    rw [List.reverse_reverse, List.reverse_reverse] at aligned
    exact aligned.changes
  · intro n changes
    obtain ⟨m, bound, aligned⟩ := Changes.exists_aligned changes
    exact (cost_le aligned.reverse).trans bound

theorem distance_self (cs : List Char) : distance cs cs = 0 :=
  Nat.le_zero.mp ((distance_isLeast cs cs).2 (Changes.none cs))

/-- The Levenshtein distance: the least number of changes that make one text the other. -/
noncomputable def levenshtein (a b : String) : Nat :=
  sInf {n | Changes n a.toList b.toList}

theorem distance_eq_levenshtein (a b : String) : distance a.toList b.toList = levenshtein a b :=
  (distance_isLeast a.toList b.toList).csInf_eq.symm

end CodeSurvey.EditDistance
