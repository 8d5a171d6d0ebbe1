import Mathlib.Data.List.ReduceOption
import Mathlib.Data.List.SplitBy
import CodeSurvey.Text.Blank

namespace CodeSurvey

namespace Text

section Split

variable {cut : Char → Bool}

theorem splitWhere_eq_splitOnP (cut : Char → Bool) (cs : List Char) : splitWhere cut cs = cs.splitOnP cut := by
  induction cs with
  | nil => rfl
  | cons c cs ih =>
    rw [splitWhere, List.splitOnP_cons_eq_if_modifyHead, ih]
    cases split : cs.splitOnP cut with
    | nil => exact absurd split (List.splitOnP_ne_nil cut cs)
    | cons piece pieces => rfl

theorem splitWhere_ne_nil (cut : Char → Bool) (cs : List Char) : splitWhere cut cs ≠ [] := by
  rw [splitWhere_eq_splitOnP]
  exact List.splitOnP_ne_nil cut cs

theorem splitWhere_of_uncut {cs : List Char} (uncut : ∀ c ∈ cs, ¬cut c) : splitWhere cut cs = [cs] := by
  rw [splitWhere_eq_splitOnP]
  exact List.splitOnP_eq_singleton fun c member => Bool.eq_false_iff.mpr (uncut c member)

theorem splitWhere_append {c : Char} (cuts : cut c) (front back : List Char) :
    splitWhere cut (front ++ c :: back) = splitWhere cut front ++ splitWhere cut back := by
  simp only [splitWhere_eq_splitOnP]
  exact List.splitOnP_append_cons front back cuts

theorem splitWhere_cons_of_cut {c : Char} (cuts : cut c) (cs : List Char) :
    splitWhere cut (c :: cs) = [] :: splitWhere cut cs :=
  if_pos cuts

theorem splitWhere_cons_of_uncut {c : Char} (keeps : ¬cut c) {cs piece : List Char} {pieces : List (List Char)}
    (split : splitWhere cut cs = piece :: pieces) : splitWhere cut (c :: cs) = (c :: piece) :: pieces := by
  rw [splitWhere, if_neg keeps, split]

theorem uncut_of_mem_splitWhere {cs piece : List Char} (listed : piece ∈ splitWhere cut cs) :
    ∀ c ∈ piece, ¬cut c := by
  induction cs generalizing piece with
  | nil =>
    rw [List.mem_singleton.mp listed]
    nofun
  | cons c cs ih =>
    by_cases cuts : cut c
    · rw [splitWhere_cons_of_cut cuts] at listed
      rcases List.mem_cons.mp listed with rfl | later
      · nofun
      · exact ih later
    · obtain ⟨first, pieces, split⟩ := List.exists_cons_of_ne_nil (splitWhere_ne_nil cut cs)
      rw [splitWhere_cons_of_uncut cuts split] at listed
      rcases List.mem_cons.mp listed with rfl | later
      · exact List.forall_mem_cons.mpr ⟨cuts, ih (split ▸ List.mem_cons_self)⟩
      · exact ih (split ▸ List.mem_cons_of_mem first later)

end Split

theorem map_toList_ofList (pieces : List (List Char)) : (pieces.map String.ofList).map String.toList = pieces := by
  rw [List.map_map]
  exact List.map_id'' (fun _ => String.toList_ofList) pieces

/-- Parts that are joined by a character none of them has come apart again. -/
theorem splitWhere_intercalate {separator : Char} {parts : List String} (nonempty : parts ≠ [])
    (free : ∀ part ∈ parts, separator ∉ part.toList) :
    (splitWhere (· == separator) ([separator].intercalate (parts.map String.toList))).map String.ofList = parts := by
  rw [splitWhere_eq_splitOnP, ← List.splitOn_eq_splitOnP, List.splitOn_intercalate separator (by simpa using free)
    (by simpa using nonempty), List.map_map]
  exact List.map_id'' (fun _ => String.ofList_toList) parts

/-- The words of a text: what stands between blanks. -/
def words (cs : List Char) : List (List Char) :=
  (splitWhere isBlank cs).filter fun piece => !piece.isEmpty

theorem ne_nil_of_mem_words {cs word : List Char} (listed : word ∈ words cs) : word ≠ [] := by
  have kept := (List.mem_filter.mp listed).2
  rintro rfl
  cases kept

theorem words_cons_of_blank {c : Char} (blank : isBlank c) (cs : List Char) : words (c :: cs) = words cs := by
  rw [words, splitWhere_cons_of_cut blank, List.filter_cons_of_neg (by simp), words]

section Collapse

theorem trimEnd_cons_of_not_blank {c : Char} (solid : ¬isBlank c) (cs : List Char) :
    trimEnd (c :: cs) = c :: trimEnd cs := by
  rw [trimEnd, List.reverse_cons, List.dropWhile_append]
  split
  · next empty => simp [trimEnd, List.isEmpty_iff.mp empty, solid]
  · rw [List.reverse_append]
    rfl

theorem trimEnd_cons_of_blank {c : Char} (blank : isBlank c) (cs : List Char) :
    trimEnd (c :: cs) = if trimEnd cs = [] then [] else c :: trimEnd cs := by
  rw [trimEnd, List.reverse_cons, List.dropWhile_append]
  by_cases empty : cs.reverse.dropWhile isBlank = []
  · simp [trimEnd, empty, blank]
  · simp [trimEnd, empty]

theorem intercalate_cons (word : List Char) (others : List (List Char)) :
    [' '].intercalate (word :: others) = word ++ others.flatMap (' ' :: ·) := by
  induction others generalizing word with
  | nil => rw [List.intercalate_singleton, List.flatMap_nil, List.append_nil]
  | cons next others ih =>
    rw [List.intercalate_cons_cons, ih, List.flatMap_cons, List.append_assoc]
    rfl

/-- Past a blank a collapsed text goes on with the next word, and within a word with the rest of it. -/
theorem trimEnd_collapse (cs : List Char) :
    trimEnd (collapse true cs) = [' '].intercalate (words cs) ∧
      ∀ piece pieces, splitWhere isBlank cs = piece :: pieces →
        trimEnd (collapse false cs) =
          piece ++ (pieces.filter fun piece => !piece.isEmpty).flatMap (' ' :: ·) := by
  induction cs with
  | nil =>
    refine ⟨rfl, fun piece pieces split => ?_⟩
    cases split
    rfl
  | cons c cs ih =>
    obtain ⟨between, within⟩ := ih
    by_cases blank : isBlank c
    · constructor
      · rw [collapse, if_pos blank, if_pos rfl, between, words_cons_of_blank blank]
      · intro piece pieces split
        rw [splitWhere_cons_of_cut blank] at split
        cases split
        rw [collapse, if_pos blank, if_neg Bool.false_ne_true, trimEnd_cons_of_blank (by decide), between]
        change _ = (words cs).flatMap _
        cases listed : words cs with
        | nil => rfl
        | cons word others =>
          have nonempty : word ≠ [] := ne_nil_of_mem_words (listed ▸ List.mem_cons_self)
          rw [intercalate_cons, if_neg (by simp [nonempty])]
          rfl
    · obtain ⟨piece, pieces, split⟩ := List.exists_cons_of_ne_nil (splitWhere_ne_nil isBlank cs)
      have goesOn (inBlank : Bool) : trimEnd (collapse inBlank (c :: cs)) =
          c :: (piece ++ (pieces.filter fun piece => !piece.isEmpty).flatMap (' ' :: ·)) := by
        rw [collapse, if_neg blank, trimEnd_cons_of_not_blank blank, within piece pieces split]
      rw [words, goesOn, goesOn, splitWhere_cons_of_uncut blank split]
      constructor
      · rw [List.filter_cons_of_pos rfl, intercalate_cons]
        rfl
      · intro piece pieces split
        cases split
        rfl

theorem trimStart_collapse (inBlank : Bool) (cs : List Char) :
    trimStart (collapse inBlank cs) = collapse true cs := by
  induction cs generalizing inBlank with
  | nil => rfl
  | cons c cs ih =>
    by_cases blank : isBlank c
    · rw [collapse, collapse, if_pos blank, if_pos blank, if_pos rfl]
      cases inBlank with
      | true => rw [if_pos rfl, ih]
      | false =>
        rw [if_neg Bool.false_ne_true, trimStart, List.dropWhile_cons_of_pos (by decide)]
        exact ih true
    · rw [collapse, collapse, if_neg blank, if_neg blank, trimStart, List.dropWhile_cons_of_neg blank]

theorem toList_normalizeBody (text : String) :
    (normalizeBody text).toList = [' '].intercalate (words text.toList) := by
  rw [normalizeBody, String.toList_ofList, trim, trimStart_collapse, (trimEnd_collapse _).1]

/-- A text without its layout is its words with a space between any two. -/
theorem normalizeBody_eq (text : String) :
    normalizeBody text = " ".intercalate ((words text.toList).map String.ofList) := by
  rw [← String.toList_inj, toList_normalizeBody, String.toList_intercalate, map_toList_ofList]
  rfl

theorem filter_collapse (inBlank : Bool) (cs : List Char) :
    ((collapse inBlank cs).filter fun c => !isBlank c) = cs.filter fun c => !isBlank c := by
  induction cs generalizing inBlank with
  | nil => rfl
  | cons c cs ih =>
    rw [collapse]
    split
    · next blank =>
      rw [List.filter_cons_of_neg (by simp [blank])]
      split
      · exact ih true
      · rw [List.filter_cons_of_neg (by decide), ih]
    · next solid => rw [List.filter_cons_of_pos (by simp [solid]), List.filter_cons_of_pos (by simp [solid]), ih]

theorem filter_trimStart (cs : List Char) :
    ((trimStart cs).filter fun c => !isBlank c) = cs.filter fun c => !isBlank c := by
  induction cs with
  | nil => rfl
  | cons c cs ih =>
    by_cases blank : isBlank c
    · rw [trimStart, List.dropWhile_cons_of_pos blank, List.filter_cons_of_neg (by simp [blank])]
      exact ih
    · rw [trimStart, List.dropWhile_cons_of_neg blank]

theorem filter_trimEnd (cs : List Char) :
    ((trimEnd cs).filter fun c => !isBlank c) = cs.filter fun c => !isBlank c := by
  have back := filter_trimStart cs.reverse
  rw [trimStart] at back
  rw [trimEnd, List.filter_reverse, back, List.filter_reverse, List.reverse_reverse]

/-- All that is not blank is kept, in its order. -/
theorem filter_normalizeBody (text : String) :
    ((normalizeBody text).toList.filter fun c => !isBlank c) = text.toList.filter fun c => !isBlank c := by
  rw [normalizeBody, String.toList_ofList, trim, filter_trimEnd, filter_trimStart, filter_collapse]

end Collapse

section Runs

variable {α : Type}

/-- Induction over the longest runs of items with one key. A run is never empty, and what follows it begins with an
item of the other key. -/
@[elab_as_elim]
theorem splitBy_induction (key : α → Bool) {motive : List (List α) → Prop} (nil : motive [])
    (cons : ∀ (value : Bool) (run : List α) (runs : List (List α)), run ≠ [] →
      (∀ item ∈ run, key item = value) → (∀ item ∈ runs.flatten.head?, key item = !value) →
      motive runs → motive (run :: runs))
    (items : List α) : motive (items.splitBy fun a b => key a == key b) := by
  obtain ⟨-, nonempty, uniform, apart⟩ := List.splitBy_eq_iff.mp
    (Eq.refl (items.splitBy fun a b => key a == key b))
  generalize items.splitBy (fun a b => key a == key b) = runs at nonempty uniform apart ⊢
  induction runs with
  | nil => exact nil
  | cons run runs ih =>
    obtain ⟨uniform, others⟩ := List.forall_mem_cons.mp uniform
    have filled : run ≠ [] := fun empty => nonempty (empty ▸ List.mem_cons_self)
    have same : ∀ item ∈ run, key item = key (run.head filled) :=
      List.IsChain.induction _ run uniform
        (fun _ _ agree first => (beq_iff_eq.mp agree).symm.trans first) fun _ => rfl
    have rest := ih (fun listed => nonempty (List.mem_cons_of_mem _ listed)) others apart.tail
    refine cons _ run runs filled same ?_ rest
    cases runs with
    | nil => nofun
    | cons next runs =>
      obtain ⟨ends, begins, differ⟩ := apart.rel
      rw [List.flatten_cons, List.head?_append, List.head?_eq_some_head begins, Option.some_or]
      rintro _ ⟨⟩
      rw [← same _ (List.getLast_mem ends)]
      exact Bool.eq_not.mpr (beq_eq_false_iff_ne.mp differ).symm

end Runs

section Marked

/-- What separates words in a text with parts that are not read: these parts, which are marked, and blanks. -/
def isLayout : Option Char → Bool
  | none => true
  | some c => isBlank c

/-- The text with a space for each part that is not read. -/
def shown (marked : List (Option Char)) : List Char :=
  marked.map (·.getD ' ')

/-- A run is all layout or all text. -/
def squeezeRun (run : List (Option Char)) : List Char :=
  if run.any isLayout then [' '] else run.reduceOption

/-- The text with one space for each longest run of blanks and parts that are not read. -/
def squeeze (marked : List (Option Char)) : List Char :=
  (marked.splitBy fun a b => isLayout a == isLayout b).flatMap squeezeRun

theorem isBlank_getD (mark : Option Char) : isBlank (mark.getD ' ') = isLayout mark := by
  cases mark <;> rfl

theorem collapse_shown_layout {run : List (Option Char)} (layout : ∀ mark ∈ run, isLayout mark) (rest : List Char) :
    collapse true (shown run ++ rest) = collapse true rest := by
  induction run with
  | nil => rfl
  | cons mark run ih =>
    obtain ⟨first, others⟩ := List.forall_mem_cons.mp layout
    rw [shown, List.map_cons, List.cons_append, collapse, if_pos (isBlank_getD mark ▸ first), if_pos rfl]
    exact ih others

theorem collapse_shown_text {run : List (Option Char)} (text : ∀ mark ∈ run, ¬isLayout mark) (rest : List Char) :
    collapse false (shown run ++ rest) = run.reduceOption ++ collapse false rest := by
  induction run with
  | nil => rfl
  | cons mark run ih =>
    obtain ⟨first, others⟩ := List.forall_mem_cons.mp text
    cases mark with
    | none => exact absurd rfl first
    | some c =>
      rw [shown, List.map_cons, List.cons_append, Option.getD_some, collapse, if_neg (show ¬isBlank c from first),
        List.reduceOption_cons_of_some]
      exact congrArg _ (ih others)

theorem collapse_true_eq {marked : List (Option Char)} (solid : ∀ mark ∈ marked.head?, ¬isLayout mark) :
    collapse true (shown marked) = collapse false (shown marked) := by
  cases marked with
  | nil => rfl
  | cons mark marked =>
    have solid : ¬isBlank (mark.getD ' ') := isBlank_getD mark ▸ solid mark rfl
    rw [shown, List.map_cons, collapse, collapse, if_neg solid, if_neg solid]

theorem squeezeRun_append {layout : Bool} {run rest : List (Option Char)} (filled : run ≠ [])
    (same : ∀ mark ∈ run, isLayout mark = layout) (next : ∀ mark ∈ rest.head?, isLayout mark = !layout) :
    squeezeRun run ++ collapse false (shown rest) = collapse false (shown (run ++ rest)) := by
  rw [squeezeRun, shown, shown, List.map_append]
  cases layout with
  | true =>
    obtain ⟨mark, run, rfl⟩ := List.exists_cons_of_ne_nil filled
    obtain ⟨first, others⟩ := List.forall_mem_cons.mp same
    have solid : ∀ mark ∈ rest.head?, ¬isLayout mark := fun mark begins =>
      Bool.eq_false_iff.mp (next mark begins)
    rw [if_pos (List.any_eq_true.mpr ⟨mark, List.mem_cons_self, first⟩), List.singleton_append, List.map_cons,
      List.cons_append, collapse, if_pos (isBlank_getD mark ▸ first), if_neg Bool.false_ne_true]
    refine congrArg _ ((collapse_true_eq solid).symm.trans ?_)
    exact (collapse_shown_layout others (shown rest)).symm
  | false =>
    have text : ∀ mark ∈ run, ¬isLayout mark := fun mark member => Bool.eq_false_iff.mp (same mark member)
    rw [if_neg (by simpa using text)]
    exact (collapse_shown_text text _).symm

theorem squeeze_eq_collapse (marked : List (Option Char)) : squeeze marked = collapse false (shown marked) := by
  conv => rhs; rw [← List.flatten_splitBy (fun a b => isLayout a == isLayout b) marked]
  rw [squeeze]
  refine splitBy_induction isLayout rfl (fun layout run runs filled same next ih => ?_) marked
  rw [List.flatMap_cons, List.flatten_cons, ih, squeezeRun_append filled same next]

theorem filter_shown (marked : List (Option Char)) :
    ((shown marked).filter fun c => !isBlank c) = marked.reduceOption.filter fun c => !isBlank c := by
  induction marked with
  | nil => rfl
  | cons mark marked ih =>
    cases mark with
    | none => exact ih
    | some c =>
      rw [List.reduceOption_cons_of_some, List.filter_cons, ← ih]
      exact List.filter_cons

/-- A text with a mark for each part from one of these places to another. The text begins at `position`. -/
def mark (position : Nat) (cs : List Char) : List (Nat × Nat) → List (Option Char)
  | [] => cs.map some
  | (start, stop) :: spans =>
    (cs.take (start - position)).map some ++ none :: mark stop (cs.drop (stop - position)) spans

theorem mark_cons (position : Nat) (front part rest : List Char) (spans : List (Nat × Nat)) :
    mark position (front ++ part ++ rest)
        ((position + front.length, position + front.length + part.length) :: spans) =
      front.map some ++ none :: mark (position + front.length + part.length) rest spans := by
  have upTo : position + front.length - position = front.length := Nat.add_sub_cancel_left _ _
  have past : position + front.length + part.length - position = (front ++ part).length := by
    rw [List.length_append]
    omega
  rw [mark, upTo, past, List.drop_left, List.append_assoc, List.take_left]

end Marked

end Text

end CodeSurvey
