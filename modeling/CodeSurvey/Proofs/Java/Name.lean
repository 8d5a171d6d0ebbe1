import Mathlib.Data.List.TakeWhile
import CodeSurvey.Java.Token
import CodeSurvey.Proofs.Java.Tree
import CodeSurvey.Reference.TypeText

namespace CodeSurvey

namespace Text

/-- The blanks as ranges of code points. -/
def blankRanges : List (Nat × Nat) :=
  [(9, 13), (0x20, 0x20), (0x85, 0x85), (0xA0, 0xA0), (0x1680, 0x1680), (0x2000, 0x200A), (0x2028, 0x2029),
    (0x202F, 0x202F), (0x205F, 0x205F), (0x3000, 0x3000)]

theorem inRanges_of_isBlank {c : Char} (blank : isBlank c) : inRanges blankRanges c.toNat := by
  simp only [isBlank, Bool.or_eq_true, Bool.and_eq_true, beq_iff_eq, decide_eq_true_eq] at blank
  simp only [inRanges, blankRanges, List.any_cons, List.any_nil, Bool.or_eq_true, Bool.and_eq_true,
    decide_eq_true_eq]
  omega

/-- Whether no range of the one list meets one of the other. -/
def apart (ranges others : List (Nat × Nat)) : Bool :=
  ranges.all fun r => others.all fun s => r.2.blt s.1 || s.2.blt r.1

theorem not_inRanges_of_apart {ranges others : List (Nat × Nat)} (disjoint : apart ranges others) {n : Nat}
    (inside : inRanges others n) : ¬inRanges ranges n := by
  intro both
  obtain ⟨r, first, within⟩ := List.any_eq_true.mp both
  obtain ⟨s, second, also⟩ := List.any_eq_true.mp inside
  have separate := List.all_eq_true.mp (List.all_eq_true.mp disjoint r first) s second
  simp only [Bool.and_eq_true, Bool.or_eq_true, decide_eq_true_eq, Nat.blt_eq] at within also separate
  omega

theorem identifierStarts_apart : apart identifierStarts blankRanges := by
  decide +kernel

theorem identifierParts_apart : apart identifierParts blankRanges := by
  decide +kernel

theorem not_isBlank_of_continuesIdentifier {c : Char} (continues : continuesIdentifier c) : ¬isBlank c := by
  intro blank
  have inBlanks := inRanges_of_isBlank blank
  have notStart := not_inRanges_of_apart identifierStarts_apart inBlanks
  have notPart := not_inRanges_of_apart identifierParts_apart inBlanks
  simp only [isBlank, Bool.or_eq_true, Bool.and_eq_true, beq_iff_eq, decide_eq_true_eq] at blank
  simp only [continuesIdentifier, startsIdentifier, isLetter, isDigit, Bool.or_eq_true, Bool.and_eq_true,
    beq_iff_eq, decide_eq_true_eq, notStart, notPart, and_false, or_false, Bool.false_eq_true, Char.le_def,
    UInt32.le_iff_toNat_le, ← Char.toNat_inj] at continues
  have letters : 'a'.val.toNat = 97 ∧ 'z'.val.toNat = 122 ∧ 'A'.val.toNat = 65 ∧ 'Z'.val.toNat = 90 ∧
      '0'.val.toNat = 48 ∧ '9'.val.toNat = 57 ∧ '_'.toNat = 95 ∧ '$'.toNat = 36 := by decide
  have value : c.val.toNat = c.toNat := rfl
  omega

end Text

/-- A name: at least one character, and all of them characters of identifiers. -/
def IsName (text : String) : Prop :=
  text ≠ "" ∧ ∀ c ∈ text.toList, Text.continuesIdentifier c

theorem Text.trim_eq_self {cs : List Char} (noBlank : ∀ c ∈ cs, ¬isBlank c) : trim cs = cs := by
  have start : trimStart cs = cs := by
    cases cs with
    | nil => rfl
    | cons c rest => exact List.dropWhile_cons_of_neg (noBlank c List.mem_cons_self)
  have finish : cs.reverse.dropWhile isBlank = cs.reverse := by
    cases reversed : cs.reverse with
    | nil => rfl
    | cons c rest =>
      have member : c ∈ cs := List.mem_reverse.mp (reversed ▸ List.mem_cons_self)
      exact List.dropWhile_cons_of_neg (noBlank c member)
  rw [trim, start, trimEnd, finish, List.reverse_reverse]

namespace TypeText

theorem dropFinalEllipses_eq_self {cs : List Char} (last : cs.getLast? ≠ some '.') :
    dropFinalEllipses cs = cs := by
  have whole : dropEllipses cs.reverse = cs.reverse := by
    unfold dropEllipses
    split
    · next reversed =>
      rw [List.getLast?_eq_head?_reverse, reversed] at last
      exact absurd rfl last
    · rfl
  rw [dropFinalEllipses, whole, List.reverse_reverse]

/-- A written type without blanks, arguments and final ellipses is the class name itself. -/
theorem className_of_bare {written : String} (noBlank : ∀ c ∈ written.toList, ¬isBlank c)
    (noOpening : ∀ c ∈ written.toList, ¬opensArguments c)
    (bare : dropFinalEllipses written.toList = written.toList) : className written = written := by
  have outer : written.toList.takeWhile (fun c => !opensArguments c) = written.toList :=
    List.takeWhile_eq_self_iff.mpr fun c member => by simpa using noOpening c member
  rw [className, Text.trim_eq_self noBlank, outer, bare, Text.trim_eq_self noBlank, String.ofList_toList]

/-- Only the last character of a dotted name could be taken off it. -/
theorem className_eq_self {written : String}
    (plain : ∀ c ∈ written.toList, Text.continuesIdentifier c ∨ c = '.')
    (last : written.toList.getLast? ≠ some '.') : className written = written := by
  refine className_of_bare ?_ ?_ (dropFinalEllipses_eq_self last)
  · intro c member
    rcases plain c member with continues | rfl
    · exact Text.not_isBlank_of_continuesIdentifier continues
    · decide
  · intro c member opens
    have continues := plain c member
    simp only [opensArguments, Bool.or_eq_true, beq_iff_eq] at opens
    rcases opens with rfl | rfl <;> exact absurd continues (by decide)

end TypeText

theorem IsName.noDot {name : String} (isName : IsName name) : '.' ∉ name.toList :=
  fun dot => absurd (isName.2 '.' dot) (by decide)

theorem IsName.className_eq {name : String} (isName : IsName name) : TypeText.className name = name :=
  TypeText.className_eq_self (fun c member => Or.inl (isName.2 c member))
    fun last => isName.noDot (List.mem_of_getLast? last)

namespace Java

namespace Token

structure Sound (token : Token) : Prop where
  name : token.isIdentifier → IsName token.leaf.text
  lead : ∀ tree ∈ token.lead, tree.IsComment

theorem take_wordLength (cs : List Char) :
    cs.take (wordLength cs) = "non-sealed".toList ∨
      cs.take (wordLength cs) = cs.takeWhile Text.continuesIdentifier := by
  unfold wordLength
  dsimp only
  split
  · next hyphened =>
    simp only [Bool.and_eq_true] at hyphened
    have front := List.isPrefixOf_iff_prefix.mp hyphened.1.1
    exact Or.inl (List.prefix_iff_eq_take.mp front).symm
  · have front : cs.takeWhile Text.continuesIdentifier <+: cs := List.takeWhile_prefix _
    exact Or.inr (List.prefix_iff_eq_take.mp front).symm

/-- Only a character that starts an identifier starts a word. -/
theorem measure_word {cs : List Char} {length : Nat} (measured : measure cs = (.word, length)) :
    length = wordLength cs ∧ ∃ c rest, cs = c :: rest ∧ Text.startsIdentifier c := by
  unfold measure at measured
  split at measured
  · cases measured
  · split at measured <;> cases measured
  · split at measured <;> cases measured
  · split at measured <;> cases measured
  · split at measured
    · split at measured <;> cases measured
    · cases measured
  · next c rest _ _ _ _ _ =>
    split at measured
    · cases measured
    split at measured
    · next starts =>
      cases measured
      exact ⟨rfl, c, rest, rfl, starts⟩
    · split at measured <;> cases measured
  · cases measured

/-- No word leads out of an embedded expression. -/
theorem measureIn_word {strings : List OpenString} {cs : List Char} {length : Nat}
    (measured : measureIn strings cs = (.word, length)) : measure cs = (.word, length) := by
  unfold measureIn at measured
  split at measured
  · split at measured <;> cases measured
  · exact measured

theorem isName_of_measure {cs : List Char} {length : Nat} (measured : measure cs = (.word, length))
    (unreserved : !reserved.contains (String.ofList (cs.take length))) :
    IsName (String.ofList (cs.take length)) := by
  obtain ⟨rfl, c, rest, rfl, starts⟩ := measure_word measured
  rcases take_wordLength (c :: rest) with hyphened | word
  · rw [hyphened] at unreserved
    exact absurd unreserved (by decide)
  · rw [word]
    have continues : Text.continuesIdentifier c := by simp [Text.continuesIdentifier, starts]
    constructor
    · simp [List.takeWhile_cons_of_pos continues]
    · intro d member
      rw [String.toList_ofList] at member
      exact List.mem_takeWhile_imp member

theorem scan_sound (fuel row : Nat) (strings : List OpenString) (lead : List Tree) (cs : List Char)
    (comments : ∀ tree ∈ lead, tree.IsComment) :
    (∀ token ∈ (scan fuel row strings lead cs).1, token.Sound) ∧
      ∀ tree ∈ (scan fuel row strings lead cs).2, tree.IsComment := by
  have waiting {lead : List Tree} (comments : ∀ tree ∈ lead, tree.IsComment) :
      ∀ tree ∈ lead.reverse, tree.IsComment :=
    fun tree member => comments tree (List.mem_reverse.mp member)
  have another {lead : List Tree} (comments : ∀ tree ∈ lead, tree.IsComment) (kind : Kind)
      (content : Leaf) (isComment : kind.isComment) :
      ∀ tree ∈ .leaf .none kind content :: lead, tree.IsComment :=
    List.forall_mem_cons.mpr ⟨⟨kind, content, isComment, rfl⟩, comments⟩
  fun_induction scan fuel row strings lead cs with
  | case1 _ _ lead => exact ⟨by simp, waiting comments⟩
  | case2 _ _ _ lead => exact ⟨by simp, waiting comments⟩
  | case3 _ _ _ lead _ _ _ _ _ _ leaf _ _ ih => exact ih (another comments _ leaf rfl)
  | case4 _ _ _ lead _ _ _ _ _ _ leaf _ _ ih => exact ih (another comments _ leaf rfl)
  | case5 _ _ _ lead cs _ length _ shape _ _ tokens last _ text leaf _ scanned measured ih =>
    have rest := ih (by simp)
    rw [scanned] at rest
    refine ⟨List.forall_mem_cons.mpr ⟨⟨?_, waiting comments⟩, rest.1⟩, rest.2⟩
    intro identifier
    simp only [isIdentifier, Bool.and_eq_true, beq_iff_eq] at identifier
    obtain ⟨rfl, unreserved⟩ := identifier
    exact isName_of_measure (measureIn_word measured) unreserved

theorem ofSource_sound (source : String) :
    (∀ token ∈ (ofSource source).1, token.Sound) ∧ ∀ tree ∈ (ofSource source).2, tree.IsComment :=
  scan_sound _ _ _ _ _ (by simp)

end Token

end Java

end CodeSurvey
