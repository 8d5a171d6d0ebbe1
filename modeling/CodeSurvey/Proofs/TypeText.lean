import CodeSurvey.Proofs.Java.Name
import CodeSurvey.Proofs.Words
import CodeSurvey.Reference.Resolver

namespace CodeSurvey

namespace TypeText

section Ellipses

theorem dropEllipses_isSuffix (cs : List Char) : dropEllipses cs <:+ cs := by
  fun_induction dropEllipses cs with
  | case1 rest ih => exact ih.trans (List.suffix_append ['.', '.', '.'] rest)
  | case2 => exact List.suffix_rfl

theorem dropEllipses_dropEllipses (cs : List Char) : dropEllipses (dropEllipses cs) = dropEllipses cs := by
  fun_induction dropEllipses cs with
  | case1 rest ih => exact ih
  | case2 cs undotted => exact dropEllipses.eq_2 cs undotted

theorem dropFinalEllipses_isPrefix (cs : List Char) : dropFinalEllipses cs <+: cs := by
  rw [dropFinalEllipses, ← List.reverse_suffix, List.reverse_reverse]
  exact dropEllipses_isSuffix cs.reverse

theorem dropFinalEllipses_dropFinalEllipses (cs : List Char) :
    dropFinalEllipses (dropFinalEllipses cs) = dropFinalEllipses cs := by
  rw [dropFinalEllipses, dropFinalEllipses, List.reverse_reverse, dropEllipses_dropEllipses]

end Ellipses

section Names

variable {written name : String}

theorem isSeparator_iff {c : Char} :
    isSeparator c ↔ c ∈ ['<', '>', ',', '[', ']', '&', '?'] ∨ isBlank c := by
  simp [isSeparator, or_assoc]

/-- A name that no reading takes anything from or drops. -/
structure IsSettled (name : String) : Prop where
  unseparated : ∀ c ∈ name.toList, ¬isSeparator c
  bare : dropFinalEllipses name.toList = name.toList
  listed : !name.isEmpty && !boundWords.contains name && !isPrimitive name

theorem isSettled_of_mem_classNames (found : name ∈ classNames written) : IsSettled name := by
  obtain ⟨read, listed⟩ := List.mem_filter.mp found
  obtain ⟨piece, split, rfl⟩ := List.mem_map.mp read
  refine ⟨?_, ?_, listed⟩
  · intro c member
    rw [String.toList_ofList] at member
    exact Text.uncut_of_mem_splitWhere split c ((dropFinalEllipses_isPrefix piece).subset member)
  · rw [String.toList_ofList, dropFinalEllipses_dropFinalEllipses]

theorem classNames_append {c : Char} (separates : isSeparator c) (front back : String) :
    classNames (front ++ String.singleton c ++ back) = classNames front ++ classNames back := by
  have split : (front ++ String.singleton c ++ back).toList = front.toList ++ c :: back.toList := by simp
  rw [classNames, split, Text.splitWhere_append separates, List.map_append, List.filter_append]
  rfl

namespace IsSettled

theorem classNames_eq (settled : IsSettled name) : classNames name = [name] := by
  rw [classNames, Text.splitWhere_of_uncut settled.unseparated, List.map_singleton, settled.bare,
    String.ofList_toList, List.filter_eq_self]
  intro other listed
  rw [List.mem_singleton.mp listed, settled.listed]

theorem className_eq (settled : IsSettled name) : className name = name := by
  refine className_of_bare (fun c member blank => ?_) (fun c member opens => ?_) settled.bare
  · exact settled.unseparated c member (isSeparator_iff.mpr (Or.inr blank))
  · refine settled.unseparated c member ?_
    rcases Bool.or_eq_true_iff.mp opens with angle | bracket
    · rw [beq_iff_eq.mp angle]
      decide
    · rw [beq_iff_eq.mp bracket]
      decide

theorem ne_empty (settled : IsSettled name) : name ≠ "" := by
  rintro rfl
  exact absurd settled.listed (by decide)

theorem resolve_eq (settled : IsSettled name) (resolver : Resolver) (hint : Option String) :
    resolver.resolve name hint = (resolver.exact name hint).or (resolver.byLocalName name) := by
  have named : ¬name.isEmpty := by simpa using settled.ne_empty
  rw [Resolver.resolve]
  simp only [settled.className_eq, if_neg named]

end IsSettled

end Names

/-- A separator keeps what stands on its two sides apart. A name that is found in a written type is found again
when it is read by itself, as the list of all its names and as its outermost class, and it is what a resolver
looks for. -/
theorem readings_agree :
    (∀ (front back : String) (c : Char), c ∈ ['<', '>', ',', '[', ']', '&', '?'] ∨ isBlank c →
      classNames (front ++ String.singleton c ++ back) = classNames front ++ classNames back) ∧
    ∀ written name : String, name ∈ classNames written →
      name ≠ "" ∧ classNames name = [name] ∧ className name = name ∧
      ∀ (resolver : Resolver) (hint : Option String),
        resolver.resolve name hint = (resolver.exact name hint).or (resolver.byLocalName name) := by
  refine ⟨fun front back c separates => classNames_append (isSeparator_iff.mpr separates) front back, ?_⟩
  intro written name found
  have settled := isSettled_of_mem_classNames found
  exact ⟨settled.ne_empty, settled.classNames_eq, settled.className_eq, settled.resolve_eq⟩

/-- The dots of an argument list are taken off in threes, and what is left of them stays with the name. -/
theorem readings_agree_dotted :
    classNames ("Map<String" ++ String.singleton ',' ++ "final a.Order........>") = ["Map", "String", "a.Order.."] ∧
      className "a.Order.." = "a.Order.." := by
  obtain ⟨separated, again⟩ := readings_agree
  have front : classNames "Map<String" = ["Map", "String"] := by decide +kernel
  have back : classNames "final a.Order........>" = ["a.Order.."] := by decide +kernel
  refine ⟨?_, (again "final a.Order........>" "a.Order.." (back ▸ List.mem_singleton_self _)).2.2.1⟩
  rw [separated _ _ ',' (by decide), front, back]
  rfl

end TypeText

end CodeSurvey
