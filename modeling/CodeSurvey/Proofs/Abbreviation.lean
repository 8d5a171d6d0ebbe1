import Mathlib.Data.String.Basic
import CodeSurvey.Name
import CodeSurvey.Proofs.Words

namespace CodeSurvey

namespace Name

/-- The segments of a name: those before its last dot, and the one behind it. -/
structure Segments (name : String) (leading : List String) (last : String) : Prop where
  joined : name = ".".intercalate (leading ++ [last])
  dotFree : ∀ segment ∈ leading ++ [last], '.' ∉ segment.toList

section Split

theorem intercalate_segments (name : String) : ".".intercalate (segments name) = name := by
  rw [← String.toList_inj, String.toList_intercalate, segments, Text.map_toList_ofList, Text.splitWhere_eq_splitOnP,
    ← List.splitOn_eq_splitOnP]
  exact List.intercalate_splitOn '.'

theorem segments_intercalate {parts : List String} (nonempty : parts ≠ [])
    (dotFree : ∀ segment ∈ parts, '.' ∉ segment.toList) : segments (".".intercalate parts) = parts := by
  rw [segments, String.toList_intercalate]
  exact Text.splitWhere_intercalate nonempty dotFree

theorem dotFree_segments {name segment : String} (listed : segment ∈ segments name) : '.' ∉ segment.toList := by
  obtain ⟨piece, found, rfl⟩ := List.mem_map.mp listed
  rw [String.toList_ofList]
  exact fun dot => Text.uncut_of_mem_splitWhere found '.' dot rfl

theorem exists_segments (name : String) : ∃ leading last, Segments name leading last := by
  have nonempty : segments name ≠ [] := by
    rw [segments, Ne, List.map_eq_nil_iff]
    exact Text.splitWhere_ne_nil _ _
  have parts := List.dropLast_append_getLast nonempty
  refine ⟨(segments name).dropLast, (segments name).getLast nonempty, ?_, ?_⟩
  · rw [parts, intercalate_segments]
  · rw [parts]
    exact fun _ => dotFree_segments

theorem Segments.segments_eq {name last : String} {leading : List String} (split : Segments name leading last) :
    segments name = leading ++ [last] := by
  rw [split.joined, segments_intercalate (by simp) split.dotFree]

end Split

section Cut

/-- The longest beginning of a text that takes no more than `room` bytes. -/
structure LongestFit (text : String) (room : Nat) (kept : String) : Prop where
  begins : ∃ rest, text = kept ++ rest
  fits : kept.utf8ByteSize ≤ room
  longest : ∀ other rest, text = other ++ rest → other.utf8ByteSize ≤ room →
    other.utf8ByteSize ≤ kept.utf8ByteSize

theorem exists_append_iff {text kept : String} : (∃ rest, text = kept ++ rest) ↔ kept.toList <+: text.toList := by
  constructor
  · rintro ⟨rest, rfl⟩
    rw [String.toList_append]
    exact List.prefix_append _ _
  · rintro ⟨rest, split⟩
    exact ⟨String.ofList rest, String.toList_inj.mp (by simp [split])⟩

theorem takeBytes_isPrefix (room : Nat) (cs : List Char) : takeBytes room cs <+: cs := by
  induction cs generalizing room with
  | nil => exact List.prefix_rfl
  | cons c cs ih =>
    rw [takeBytes]
    split
    · exact List.cons_prefix_cons.mpr ⟨rfl, ih _⟩
    · exact List.nil_prefix

theorem utf8Len_takeBytes_le (room : Nat) (cs : List Char) : String.utf8Len (takeBytes room cs) ≤ room := by
  induction cs generalizing room with
  | nil => exact Nat.zero_le room
  | cons c cs ih =>
    rw [takeBytes]
    split
    · next fits =>
      have rest := ih (room - c.utf8Size)
      rw [String.utf8Len_cons]
      omega
    · exact Nat.zero_le room

/-- Every beginning that fits is part of what is taken. -/
theorem isPrefix_takeBytes {room : Nat} {cs kept : List Char} (begins : kept <+: cs)
    (fits : String.utf8Len kept ≤ room) : kept <+: takeBytes room cs := by
  induction cs generalizing room kept with
  | nil => exact begins
  | cons c cs ih =>
    cases kept with
    | nil => exact List.nil_prefix
    | cons d kept =>
      obtain ⟨rfl, further⟩ := List.cons_prefix_cons.mp begins
      rw [String.utf8Len_cons] at fits
      rw [takeBytes, if_pos (by omega)]
      exact List.cons_prefix_cons.mpr ⟨rfl, ih further (by omega)⟩

theorem truncate_longestFit (text : String) (room : Nat) : LongestFit text room (truncate text room) := by
  have listed : (truncate text room).toList = takeBytes room text.toList := String.toList_ofList
  refine ⟨?_, ?_, fun other rest split fits => ?_⟩
  · rw [exists_append_iff, listed]
    exact takeBytes_isPrefix room text.toList
  · rw [← String.utf8Len_toList, listed]
    exact utf8Len_takeBytes_le room text.toList
  · rw [← String.utf8Len_toList] at fits ⊢
    rw [← String.utf8Len_toList, listed]
    exact String.utf8Len_le_of_prefix (isPrefix_takeBytes (exists_append_iff.mp ⟨rest, split⟩) fits)

end Cut

section Initials

/-- A name with the first `count` of its leading segments cut to their first characters, where they have one. -/
def shortened (leading : List String) (last : String) (count : Nat) : String :=
  ".".intercalate ((leading.take count).map (fun segment => segment.toList.head?.elim "" String.singleton) ++
    leading.drop count ++ [last])

variable {name last : String} {leading : List String} {room : Nat}

theorem initial_eq (segment : String) : initial segment = segment.toList.head?.elim "" String.singleton := by
  unfold initial
  cases segment.toList with
  | nil => rfl
  | cons first rest => exact (String.singleton_eq_ofList).symm

theorem initials_eq_shortened {count : Nat} (within : count ≤ leading.length) :
    initials (leading ++ [last]) count = shortened leading last count := by
  rw [initials, shortened, List.take_append_of_le_length within, List.drop_append_of_le_length within,
    List.append_assoc, List.map_congr_left fun segment _ => initial_eq segment]

/-- Once all leading segments are shortened nothing changes any more. -/
theorem shortened_of_le {count : Nat} (beyond : leading.length ≤ count) :
    shortened leading last count = shortened leading last leading.length := by
  rw [shortened, shortened, List.take_of_length_le beyond, List.drop_of_length_le beyond, List.take_length,
    List.drop_length]

/-- Where neither the name fits nor a form with some of the leading segments there are, no form does. -/
theorem exceeds_shortened (split : Segments name leading last) (whole : room < name.utf8ByteSize)
    (tried : ∀ k < leading.length, room < (shortened leading last (k + 1)).utf8ByteSize) {count : Nat}
    (positive : 1 ≤ count) : room < (shortened leading last count).utf8ByteSize := by
  by_cases within : count ≤ leading.length
  · have before := tried (count - 1) (by omega)
    rwa [Nat.sub_add_cancel positive] at before
  · rw [shortened_of_le (Nat.le_of_not_le within)]
    cases leading with
    | nil => rwa [split.joined] at whole
    | cons first others => exact tried others.length (Nat.lt_succ_self _)

end Initials

/-- What a name with these segments comes to in limited room. -/
inductive Abbreviated (name : String) (leading : List String) (last : String) (room : Nat) : String → Prop
  | whole : name.utf8ByteSize ≤ room → Abbreviated name leading last room name
  | initials {count : Nat} : room < name.utf8ByteSize → 1 ≤ count →
      (shortened leading last count).utf8ByteSize ≤ room →
      (∀ fewer, 1 ≤ fewer → fewer < count → room < (shortened leading last fewer).utf8ByteSize) →
      Abbreviated name leading last room (shortened leading last count)
  | last : room < name.utf8ByteSize → (∀ count, 1 ≤ count → room < (shortened leading last count).utf8ByteSize) →
      last.utf8ByteSize ≤ room → Abbreviated name leading last room last
  | cut {kept : String} : room < name.utf8ByteSize →
      (∀ count, 1 ≤ count → room < (shortened leading last count).utf8ByteSize) → room < last.utf8ByteSize →
      LongestFit last room kept → Abbreviated name leading last room (kept ++ "...")

section Outcome

variable {name last : String} {leading : List String} {room : Nat}

theorem truncateMarked_abbreviated (whole : room < name.utf8ByteSize)
    (shorter : ∀ count, 1 ≤ count → room < (shortened leading last count).utf8ByteSize) :
    Abbreviated name leading last room (truncateMarked last room) := by
  rw [truncateMarked]
  split
  · next fits => exact .last whole shorter fits
  · next exceeds => exact .cut whole shorter (Nat.lt_of_not_le exceeds) (truncate_longestFit last room)

theorem abbreviate_abbreviated (split : Segments name leading last) (room : Nat) :
    Abbreviated name leading last room (abbreviate name room) := by
  have forms : (List.range ((leading ++ [last]).length - 1)).map (fun k => initials (leading ++ [last]) (k + 1)) =
      (List.range leading.length).map fun k => shortened leading last (k + 1) := by
    rw [List.length_append, List.length_singleton, Nat.add_sub_cancel]
    exact List.map_congr_left fun k member => initials_eq_shortened (List.mem_range.mp member)
  rw [abbreviate]
  simp only [split.segments_eq, forms, List.find?_map, List.getLastD_concat]
  split
  · next fits => exact .whole fits
  · next exceeds =>
    have whole := Nat.lt_of_not_le exceeds
    cases found : (List.range leading.length).find? ((fun form : String => decide (form.utf8ByteSize ≤ room)) ∘
        fun k => shortened leading last (k + 1)) with
    | none =>
      have tried := List.find?_range_eq_none.mp found
      exact truncateMarked_abbreviated whole fun count => exceeds_shortened split whole (by simpa using tried)
    | some k =>
      obtain ⟨fits, _, before⟩ := List.find?_range_eq_some.mp found
      refine .initials whole (Nat.succ_pos k) (of_decide_eq_true fits) fun fewer positive less => ?_
      have exceeds := before (fewer - 1) (by omega)
      simpa [Nat.sub_add_cancel positive] using exceeds

theorem Abbreviated.size_le {result : String} (abbreviated : Abbreviated name leading last room result) :
    result.utf8ByteSize ≤ room + 3 := by
  cases abbreviated with
  | whole fits => omega
  | initials _ _ fits _ => omega
  | last _ _ fits => omega
  | cut _ _ _ longest =>
    have fits := longest.fits
    have dots : "...".utf8ByteSize = 3 := by decide
    rw [String.utf8ByteSize_append, dots]
    omega

/-- Only the cut of a last segment may take more than the room. -/
theorem Abbreviated.cut_of_exceeds {result : String} (abbreviated : Abbreviated name leading last room result)
    (exceeds : room < result.utf8ByteSize) :
    room < last.utf8ByteSize ∧ ∃ kept, LongestFit last room kept ∧ result = kept ++ "..." := by
  cases abbreviated with
  | whole fits => omega
  | initials _ _ fits _ => omega
  | last _ _ fits => omega
  | cut _ _ tooLong longest => exact ⟨tooLong, _, longest, rfl⟩

end Outcome

/-- A name is shortened as little as its room asks for, and only a last segment that does not fit by itself
comes out longer, by the three dots that mark the cut. -/
theorem abbreviation_is_least (name : String) (room : Nat) :
    (∃ leading last, Segments name leading last) ∧
      ∀ leading last, Segments name leading last →
        Abbreviated name leading last room (abbreviate name room) ∧
        (abbreviate name room).utf8ByteSize ≤ room + 3 ∧
        (room < (abbreviate name room).utf8ByteSize →
          room < last.utf8ByteSize ∧ ∃ kept, LongestFit last room kept ∧ abbreviate name room = kept ++ "...") := by
  refine ⟨exists_segments name, fun leading last split => ?_⟩
  have abbreviated := abbreviate_abbreviated split room
  exact ⟨abbreviated, abbreviated.size_le, abbreviated.cut_of_exceeds⟩

/-- Twelve bytes are enough once the first segment gives way, and eleven once the two that are not empty do. In
two bytes there is no room for the second character of the last segment. -/
theorem abbreviation_is_least_accented :
    Segments "éa..bc.Näme" ["éa", "", "bc"] "Näme" ∧
      Abbreviated "éa..bc.Näme" ["éa", "", "bc"] "Näme" 12 "é..bc.Näme" ∧
      Abbreviated "éa..bc.Näme" ["éa", "", "bc"] "Näme" 11 "é..b.Näme" ∧
      Abbreviated "éa..bc.Näme" ["éa", "", "bc"] "Näme" 2 "N..." := by
  have split : Segments "éa..bc.Näme" ["éa", "", "bc"] "Näme" := ⟨by decide +kernel, by decide +kernel⟩
  have wide := ((abbreviation_is_least "éa..bc.Näme" 12).2 _ _ split).1
  have closer := ((abbreviation_is_least "éa..bc.Näme" 11).2 _ _ split).1
  have narrow := ((abbreviation_is_least "éa..bc.Näme" 2).2 _ _ split).1
  rw [show abbreviate "éa..bc.Näme" 12 = "é..bc.Näme" by decide +kernel] at wide
  rw [show abbreviate "éa..bc.Näme" 11 = "é..b.Näme" by decide +kernel] at closer
  rw [show abbreviate "éa..bc.Näme" 2 = "N..." by decide +kernel] at narrow
  exact ⟨split, wide, closer, narrow⟩

end Name

end CodeSurvey
