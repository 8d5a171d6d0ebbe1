import CodeSurvey.Proofs.Words

namespace CodeSurvey

namespace Text

/-- The longest runs of characters that are not blank, in their order. -/
def solidRuns (cs : List Char) : List (List Char) :=
  (cs.splitBy fun a b => isBlank a == isBlank b).filter fun run => !run.any isBlank

/-- No blank stands at an end or next to another, and none is used but the space. -/
structure IsTidy (cs : List Char) : Prop where
  start : ∀ c ∈ cs.head?, ¬isBlank c
  stop : ∀ c ∈ cs.getLast?, ¬isBlank c
  single : cs.IsChain fun c d => ¬(isBlank c ∧ isBlank d)
  spaces : ∀ c ∈ cs, isBlank c → c = ' '

structure IsWord (word : List Char) : Prop where
  filled : word ≠ []
  solid : ∀ c ∈ word, ¬isBlank c

section Words

variable {cs run word rest : List Char}

theorem isWord_of_mem_words (listed : word ∈ words cs) : IsWord word :=
  ⟨ne_nil_of_mem_words listed, uncut_of_mem_splitWhere (List.mem_filter.mp listed).1⟩

theorem words_append_of_blank (blank : ∀ c ∈ run, isBlank c) (rest : List Char) :
    words (run ++ rest) = words rest := by
  induction run with
  | nil => rfl
  | cons c run ih =>
    obtain ⟨first, others⟩ := List.forall_mem_cons.mp blank
    rw [List.cons_append, words_cons_of_blank first, ih others]

namespace IsWord

theorem words_eq (isWord : IsWord word) : words word = [word] := by
  rw [words, splitWhere_of_uncut isWord.solid, List.filter_cons_of_pos (by simpa using isWord.filled),
    List.filter_nil]

theorem words_append (isWord : IsWord word) (next : ∀ c ∈ rest.head?, isBlank c) :
    words (word ++ rest) = word :: words rest := by
  cases rest with
  | nil =>
    rw [List.append_nil, isWord.words_eq]
    rfl
  | cons c rest =>
    have blank : isBlank c := next c rfl
    rw [words_cons_of_blank blank, words, splitWhere_append blank, List.filter_append]
    exact congrArg (· ++ words rest) isWord.words_eq

end IsWord

theorem words_eq_solidRuns (cs : List Char) : words cs = solidRuns cs := by
  conv => lhs; rw [← List.flatten_splitBy (fun a b => isBlank a == isBlank b) cs]
  rw [solidRuns]
  refine splitBy_induction isBlank rfl (fun blank run runs filled same next ih => ?_) cs
  rw [List.flatten_cons]
  cases blank with
  | true =>
    obtain ⟨c, member⟩ := List.exists_mem_of_ne_nil run filled
    have dropped : run.any isBlank := List.any_eq_true.mpr ⟨c, member, same c member⟩
    rw [words_append_of_blank same, ih, List.filter_cons_of_neg (by simp [dropped])]
  | false =>
    have isWord : IsWord run := ⟨filled, fun c member => Bool.eq_false_iff.mp (same c member)⟩
    rw [isWord.words_append next, ih, List.filter_cons_of_pos (by simpa using same)]

end Words

section Tidy

variable {cs word rest : List Char}

theorem IsTidy.of_solid (solid : ∀ c ∈ word, ¬isBlank c) : IsTidy word where
  start c first := solid c (List.mem_of_mem_head? first)
  stop c last := solid c (List.mem_of_mem_getLast? last)
  single := by
    refine List.Pairwise.isChain (List.pairwise_of_forall_mem_list ?_)
    exact fun c member _ _ both => solid c member both.1
  spaces c member blank := absurd blank (solid c member)

theorem IsTidy.space (isWord : IsWord word) (tidy : IsTidy rest) (goesOn : rest ≠ []) :
    IsTidy (word ++ ' ' :: rest) where
  start c first := by
    rw [List.head?_append_of_ne_nil _ isWord.filled] at first
    exact isWord.solid c (List.mem_of_mem_head? first)
  stop c last := by
    rw [List.getLast?_append_of_ne_nil _ (List.cons_ne_nil _ _), List.getLast?_cons_of_ne_nil goesOn] at last
    exact tidy.stop c last
  single := by
    have afterWord := tidy.single.cons (x := ' ') fun d first both => tidy.start d first both.2
    refine (of_solid isWord.solid).single.append afterWord fun c last _ _ both => ?_
    exact isWord.solid c (List.mem_of_mem_getLast? last) both.1
  spaces c member blank := by
    rcases List.mem_append.mp member with inWord | afterWord
    · exact absurd blank (isWord.solid c inWord)
    · rcases List.mem_cons.mp afterWord with rfl | inRest
      · rfl
      · exact tidy.spaces c inRest blank

/-- Words with a space between any two are a tidy text, and are found in it again. -/
theorem isTidy_intercalate {listed : List (List Char)} (isWord : ∀ word ∈ listed, IsWord word) :
    IsTidy ([' '].intercalate listed) ∧ words ([' '].intercalate listed) = listed := by
  induction listed with
  | nil => exact ⟨IsTidy.of_solid nofun, rfl⟩
  | cons word others ih =>
    obtain ⟨first, isWord⟩ := List.forall_mem_cons.mp isWord
    obtain ⟨tidy, found⟩ := ih isWord
    cases others with
    | nil =>
      rw [List.intercalate_singleton]
      exact ⟨IsTidy.of_solid first.solid, first.words_eq⟩
    | cons next others =>
      rw [List.intercalate_cons_cons, List.append_assoc, List.singleton_append]
      constructor
      · refine IsTidy.space first tidy fun empty => ?_
        rw [empty] at found
        cases found
      · rw [first.words_append (by rintro _ ⟨⟩; decide), words_cons_of_blank (by decide), found]

theorem isTidy_normalizeBody (text : String) :
    IsTidy (normalizeBody text).toList ∧ words (normalizeBody text).toList = words text.toList := by
  rw [toList_normalizeBody]
  exact isTidy_intercalate fun _ => isWord_of_mem_words

/-- In a text of single spaces there is nothing to collapse. Past a blank it goes on with another character. -/
theorem collapse_eq_self (inBlank : Bool) (start : inBlank → ∀ c ∈ cs.head?, ¬isBlank c)
    (single : cs.IsChain fun c d => ¬(isBlank c ∧ isBlank d)) (spaces : ∀ c ∈ cs, isBlank c → c = ' ') :
    collapse inBlank cs = cs := by
  induction cs generalizing inBlank with
  | nil => rfl
  | cons c cs ih =>
    obtain ⟨first, spaces⟩ := List.forall_mem_cons.mp spaces
    obtain ⟨apart, single⟩ := List.isChain_cons.mp single
    rw [collapse]
    by_cases blank : isBlank c
    · have unwritten : ¬inBlank := fun written => start written c rfl blank
      have goesOn : collapse true cs = cs :=
        ih true (fun _ d next spaced => apart d next ⟨blank, spaced⟩) single spaces
      rw [if_pos blank, if_neg unwritten, goesOn, first blank]
    · rw [if_neg blank, ih false (fun written => absurd written Bool.false_ne_true) single spaces]

theorem trimStart_eq_self (start : ∀ c ∈ cs.head?, ¬isBlank c) : trimStart cs = cs := by
  cases cs with
  | nil => rfl
  | cons c cs => exact List.dropWhile_cons_of_neg (start c rfl)

theorem trimEnd_eq_self (stop : ∀ c ∈ cs.getLast?, ¬isBlank c) : trimEnd cs = cs := by
  have back : trimStart cs.reverse = cs.reverse := trimStart_eq_self (by rwa [List.head?_reverse])
  rw [trimStart] at back
  rw [trimEnd, back, List.reverse_reverse]

theorem normalizeBody_of_isTidy {text : String} (tidy : IsTidy text.toList) : normalizeBody text = text := by
  have collapsed : collapse false text.toList = text.toList :=
    collapse_eq_self false (fun written => absurd written Bool.false_ne_true) tidy.single tidy.spaces
  rw [normalizeBody, collapsed, trim, trimStart_eq_self tidy.start, trimEnd_eq_self tidy.stop, String.ofList_toList]

end Tidy

section Form

variable {text other form : String}

theorem normalizeBody_eq_iff :
    normalizeBody text = normalizeBody other ↔ words text.toList = words other.toList := by
  constructor
  · intro same
    rw [← (isTidy_normalizeBody text).2, same, (isTidy_normalizeBody other).2]
  · intro same
    rw [normalizeBody_eq, normalizeBody_eq, same]

theorem eq_normalizeBody_iff :
    form = normalizeBody text ↔ IsTidy form.toList ∧ words form.toList = words text.toList := by
  constructor
  · rintro rfl
    exact isTidy_normalizeBody text
  · rintro ⟨tidy, same⟩
    rw [← normalizeBody_eq_iff.mpr same, normalizeBody_of_isTidy tidy]

end Form

/-- Two texts have the same layout-free form exactly if they have the same runs of characters that are not blank.
The form is tidy and its own form, and no other tidy text has these runs. -/
theorem normalizeBody_is_canonical :
    (∀ text other : String,
      normalizeBody text = normalizeBody other ↔ solidRuns text.toList = solidRuns other.toList) ∧
    (∀ text : String, IsTidy (normalizeBody text).toList) ∧
    (∀ text : String, normalizeBody (normalizeBody text) = normalizeBody text) ∧
    ∀ text form : String,
      form = normalizeBody text ↔ IsTidy form.toList ∧ solidRuns form.toList = solidRuns text.toList := by
  simp only [← words_eq_solidRuns]
  refine ⟨fun _ _ => normalizeBody_eq_iff, fun text => (isTidy_normalizeBody text).1, fun text => ?_,
    fun _ _ => eq_normalizeBody_iff⟩
  exact normalizeBody_of_isTidy (isTidy_normalizeBody text).1

example : normalizeBody "\t a \u2003\n b\u00a0" = "a b" ∧
    solidRuns "\t a \u2003\n b\u00a0".toList = [['a'], ['b']] := by
  decide

end Text

end CodeSurvey
