import Mathlib.Data.List.DropRight
import CodeSurvey.Proofs.Json.Token

namespace CodeSurvey

namespace Json

/-- The number that the text of a floating-point number holds. It may be another one, since digits are not always
read as the number that is nearest to them. -/
def rereadReal? (x : Float) : Option Float :=
  match readFirst (realText x) with
  | some (.real y, []) => some y
  | _ => none

mutual

/-- What a reader of so many levels makes of the text of a value: whole numbers fit into 64 bits, and other numbers
come to what their texts hold. -/
def reread? : Nat → Json → Option Json
  | _, .null => some .null
  | _, .bool value => some (.bool value)
  | _, .int value => if -2 ^ 63 ≤ value ∧ value < 2 ^ 64 then some (.int value) else none
  | _, .real value => (rereadReal? value).map .real
  | _, .str value => some (.str value)
  | 0, .arr _ => none
  | levels + 1, .arr items => (rereadItems? levels items).map .arr
  | 0, .obj _ => none
  | levels + 1, .obj entries => (rereadEntries? levels entries).map .obj

def rereadItems? (levels : Nat) : List Json → Option (List Json)
  | [] => some []
  | item :: items => (reread? levels item).bind fun first => (rereadItems? levels items).map (first :: ·)

def rereadEntries? (levels : Nat) : List (String × Json) → Option (List (String × Json))
  | [] => some []
  | (key, value) :: entries =>
    (reread? levels value).bind fun first => (rereadEntries? levels entries).map ((key, first) :: ·)

end

mutual

/-- A value that a reader of so many levels can get back. -/
def isReadable : Nat → Json → Bool
  | _, .null => true
  | _, .bool _ => true
  | _, .int value => -2 ^ 63 ≤ value && value < 2 ^ 64
  | _, .real value => rereadReal? value = some value
  | _, .str _ => true
  | 0, .arr _ => false
  | levels + 1, .arr items => areReadable levels items
  | 0, .obj _ => false
  | levels + 1, .obj entries => entriesReadable levels entries

def areReadable (levels : Nat) : List Json → Bool
  | [] => true
  | item :: items => isReadable levels item && areReadable levels items

def entriesReadable (levels : Nat) : List (String × Json) → Bool
  | [] => true
  | (_, value) :: entries => isReadable levels value && entriesReadable levels entries

end

mutual

theorem reread?_of_isReadable : ∀ {levels : Nat} {value : Json}, isReadable levels value →
    reread? levels value = some value
  | _, .null, _ => rfl
  | _, .bool _, _ => rfl
  | _, .int value, readable => by
    rw [isReadable, Bool.and_eq_true, decide_eq_true_eq, decide_eq_true_eq] at readable
    exact if_pos readable
  | _, .real value, readable => by
    rw [reread?, of_decide_eq_true readable, Option.map_some]
  | _, .str _, _ => rfl
  | 0, .arr _, readable => nomatch readable
  | _ + 1, .arr items, readable => by
    rw [reread?, rereadItems?_of_areReadable readable, Option.map_some]
  | 0, .obj _, readable => nomatch readable
  | _ + 1, .obj entries, readable => by
    rw [reread?, rereadEntries?_of_entriesReadable readable, Option.map_some]

theorem rereadItems?_of_areReadable : ∀ {levels : Nat} {items : List Json}, areReadable levels items →
    rereadItems? levels items = some items
  | _, [], _ => rfl
  | _, item :: items, readable => by
    rw [areReadable, Bool.and_eq_true] at readable
    rw [rereadItems?, reread?_of_isReadable readable.1, Option.bind_some, rereadItems?_of_areReadable readable.2,
      Option.map_some]

theorem rereadEntries?_of_entriesReadable : ∀ {levels : Nat} {entries : List (String × Json)},
    entriesReadable levels entries → rereadEntries? levels entries = some entries
  | _, [], _ => rfl
  | _, (key, value) :: entries, readable => by
    rw [entriesReadable, Bool.and_eq_true] at readable
    rw [rereadEntries?, reread?_of_isReadable readable.1, Option.bind_some,
      rereadEntries?_of_entriesReadable readable.2, Option.map_some]

end

/-- Where blanks stand: before an item of a level, before the bracket that closes a level, and after a
colon. -/
structure Spacing where
  before : Nat → List Char
  closing : Nat → List Char
  colon : List Char
  before_gap : ∀ depth, ∀ c ∈ before depth, isGap c
  closing_gap : ∀ depth, ∀ c ∈ closing depth, isGap c
  colon_gap : ∀ c ∈ colon, isGap c

/-- A text between quotes. -/
def quoted (text : String) : List Char :=
  '"' :: (text.toList.flatMap escapeChar ++ ['"'])

mutual

/-- The text of a value with blanks between its tokens. -/
def spell (s : Spacing) (depth : Nat) : Json → List Char
  | .null => "null".toList
  | .bool value => if value then "true".toList else "false".toList
  | .int value => (toString value).toList
  | .real value => (realText value).toList
  | .str value => quoted value
  | .arr [] => ['[', ']']
  | .arr (item :: items) => '[' :: spellItems s (depth + 1) (s.closing depth ++ [']']) (item :: items)
  | .obj [] => ['\x7b', '\x7d']
  | .obj (entry :: entries) =>
    '\x7b' :: spellEntries s (depth + 1) (s.closing depth ++ ['\x7d']) (entry :: entries)

/-- Items divided by commas, and the text that closes their level. -/
def spellItems (s : Spacing) (depth : Nat) (close : List Char) : List Json → List Char
  | [] => close
  | [item] => s.before depth ++ (spell s depth item ++ close)
  | item :: next :: items =>
    s.before depth ++ (spell s depth item ++ ',' :: spellItems s depth close (next :: items))

def spellEntries (s : Spacing) (depth : Nat) (close : List Char) : List (String × Json) → List Char
  | [] => close
  | [(key, value)] => s.before depth ++ (quoted key ++ ':' :: (s.colon ++ (spell s depth value ++ close)))
  | (key, value) :: next :: entries =>
    s.before depth ++ (quoted key ++ ':' :: (s.colon ++ (spell s depth value ++
      ',' :: spellEntries s depth close (next :: entries))))

end

section Gaps

variable {gap cs rest : List Char}

theorem skipGap_append (isGaps : ∀ c ∈ gap, isGap c) : skipGap (gap ++ cs) = skipGap cs :=
  List.dropWhile_append_of_pos isGaps

theorem skipGap_cons {c : Char} (noGap : ¬isGap c) : skipGap (c :: cs) = c :: cs :=
  List.dropWhile_cons_of_neg noGap

theorem skipGap_append_of_cons {c : Char} {left : List Char} (first : skipGap cs = c :: left) :
    skipGap (cs ++ rest) = c :: (left ++ rest) := by
  unfold skipGap at first ⊢
  rw [List.dropWhile_append, first]
  rfl

theorem endsNumber_cons {c : Char} (other : ¬continuesNumber c) : EndsNumber (c :: rest) := by
  intro d first
  cases first
  exact other

theorem endsNumber_of_gap {c : Char} (isGaps : ∀ c ∈ gap, isGap c) (other : ¬continuesNumber c) :
    EndsNumber (gap ++ c :: rest) := by
  cases gap with
  | nil => exact endsNumber_cons other
  | cons d gap =>
    intro e first
    cases first
    have blank := isGaps d List.mem_cons_self
    simp only [isGap, Bool.or_eq_true, beq_iff_eq] at blank
    rcases blank with ((rfl | rfl) | rfl) | rfl <;> decide

end Gaps

section Value

variable {fuel levels : Nat} {cs rest : List Char}

theorem readValue_skipGap (fuel levels : Nat) (cs : List Char) :
    readValue fuel levels (skipGap cs) = readValue fuel levels cs := by
  cases fuel with
  | zero => rfl
  | succ fuel =>
    have same : skipGap (skipGap cs) = skipGap cs := List.dropWhile_idempotent _ _
    rw [readValue, readValue, same]

theorem readValue_gap_append {gap : List Char} (isGaps : ∀ c ∈ gap, isGap c) :
    readValue fuel levels (gap ++ cs) = readValue fuel levels cs := by
  rw [← readValue_skipGap, skipGap_append isGaps, readValue_skipGap]

/-- What starts with none of the marks of other values is read as a number. -/
theorem readValue_number {c : Char} (first : skipGap cs = c :: rest)
    (noMark : c ∉ ['"', '[', '\x7b', '-', 't', 'f', 'n']) :
    readValue (fuel + 1) levels cs = readNumber false (c :: rest) := by
  simp only [List.mem_cons, List.not_mem_nil, or_false, not_or] at noMark
  rw [readValue, first]
  split <;> simp_all

theorem readValue_minus (first : skipGap cs = '-' :: rest) :
    readValue (fuel + 1) levels cs = readNumber true rest := by
  rw [readValue, first]
  rfl

theorem readValue_toDigits {n : Nat} (bounded : n < 2 ^ 64) (ends : EndsNumber rest) :
    readValue (fuel + 1) levels (Nat.toDigits 10 n ++ rest) = some (.int n, rest) := by
  have read : readNumber false (Nat.toDigits 10 n) = some (.int n, []) := by
    rw [readNumber_toDigits, wholeNumber?_toDigits bounded, Option.map_some]
  have whole := readNumber_append ends read
  obtain ⟨d, ds, split⟩ := List.exists_cons_of_ne_nil (Nat.toDigits_ne_nil (b := 10) (n := n))
  have digit : isDigitChar d := isDigitChar_of_mem_toDigits (split ▸ List.mem_cons_self)
  have noGap : ¬isGap d := by
    intro blank
    simp only [isGap, Bool.or_eq_true, beq_iff_eq] at blank
    rcases blank with ((rfl | rfl) | rfl) | rfl <;> exact absurd digit (by decide)
  have noMark : d ∉ ['"', '[', '\x7b', '-', 't', 'f', 'n'] := by
    intro mark
    simp only [List.mem_cons, List.not_mem_nil, or_false] at mark
    rcases mark with rfl | rfl | rfl | rfl | rfl | rfl | rfl <;> exact absurd digit (by decide)
  rw [split, List.cons_append] at whole ⊢
  rw [readValue_number (skipGap_cons noGap) noMark, whole, List.nil_append]

theorem readValue_int {value : Int} (fits : -2 ^ 63 ≤ value ∧ value < 2 ^ 64) (ends : EndsNumber rest) :
    readValue (fuel + 1) levels ((toString value).toList ++ rest) = some (.int value, rest) := by
  cases value with
  | ofNat n =>
    have digits : (toString (Int.ofNat n)).toList = Nat.toDigits 10 n := Nat.toList_repr
    have below : (n : Int) < 2 ^ 64 := fits.2
    rw [digits]
    exact readValue_toDigits (by omega) ends
  | negSucc n =>
    have digits : (toString (Int.negSucc n)).toList = '-' :: Nat.toDigits 10 (n + 1) := by
      have text : toString (Int.negSucc n) = "-" ++ (n + 1).repr := rfl
      rw [text, String.toList_append, Nat.toList_repr]
      rfl
    have read : readNumber true (Nat.toDigits 10 (n + 1)) = some (.int (Int.negSucc n), []) := by
      rw [readNumber_toDigits, wholeNumber?_toDigits_negative n.succ_pos (by omega), Option.map_some]
      rfl
    rw [digits, List.cons_append, readValue_minus (skipGap_cons (by decide)), readNumber_append ends read,
      List.nil_append]

/-- Only a number is read as a number, and it is so whatever follows. -/
theorem readValue_real_append {x : Float} {left : List Char} {moreFuel moreLevels : Nat}
    (ends : EndsNumber rest) (read : readValue (fuel + 1) levels cs = some (.real x, left)) :
    readValue (moreFuel + 1) moreLevels (cs ++ rest) = some (.real x, left ++ rest) := by
  cases first : skipGap cs with
  | nil =>
    rw [readValue, first] at read
    cases read
  | cons c start =>
    have after : skipGap (cs ++ rest) = c :: (start ++ rest) := skipGap_append_of_cons first
    by_cases mark : c ∈ ['"', '[', '\x7b', '-', 't', 'f', 'n']
    · by_cases minus : c = '-'
      · subst minus
        rw [readValue_minus first] at read
        rw [readValue_minus after]
        exact readNumber_append ends read
      · simp only [List.mem_cons, List.not_mem_nil, or_false, minus, false_or] at mark
        rw [readValue, first] at read
        rcases mark with rfl | rfl | rfl | rfl | rfl | rfl
        · simp at read
        · simp only at read
          split at read
          · cases read
          · split at read <;> simp at read
        · simp only at read
          split at read
          · cases read
          · split at read <;> simp at read
        · simp at read
        · simp at read
        · simp at read
    · rw [readValue_number first mark] at read
      rw [readValue_number after mark, ← List.cons_append]
      exact readNumber_append ends read

theorem readValue_real {x y : Float} (reads : rereadReal? x = some y) (ends : EndsNumber rest) :
    readValue (fuel + 1) levels ((realText x).toList ++ rest) = some (.real y, rest) := by
  unfold rereadReal? at reads
  split at reads
  · next read =>
    cases reads
    unfold readFirst at read
    exact readValue_real_append ends read
  · cases reads

theorem readValue_str (text : String) :
    readValue (fuel + 1) levels (quoted text ++ rest) = some (.str text, rest) := by
  have split : quoted text ++ rest = '"' :: (text.toList.flatMap escapeChar ++ '"' :: rest) := by
    simp [quoted]
  rw [split, readValue, skipGap_cons (by decide)]
  simp only [readString_quoted, Option.map_some]

theorem readValue_bracket (closes : skipGap cs = ']' :: rest) : readValue fuel levels cs = none := by
  cases fuel with
  | zero => rfl
  | succ fuel =>
    rw [readValue_number closes (by decide)]
    rfl

/-- Where a value can be read no bracket closes the level, so the reader goes on to the items. -/
theorem readValue_arr {items : List Json} (read : readItems fuel levels [] cs = some (items.reverse, rest)) :
    readValue (fuel + 1) (levels + 1) ('[' :: cs) = some (.arr items, rest) := by
  rw [readValue, skipGap_cons (by decide)]
  simp only
  cases fuel with
  | zero => cases read
  | succ fuel =>
    split
    · next closes =>
      rw [readItems, readValue_bracket closes] at read
      cases read
    · have skipped : readItems (fuel + 1) levels [] (skipGap cs) = readItems (fuel + 1) levels [] cs := by
        rw [readItems, readItems, readValue_skipGap]
      rw [skipped, read, Option.map_some, List.reverse_reverse]

theorem readValue_obj {entries : List (String × Json)}
    (read : readEntries fuel levels [] cs = some (entries.reverse, rest)) :
    readValue (fuel + 1) (levels + 1) ('\x7b' :: cs) = some (.obj entries, rest) := by
  rw [readValue, skipGap_cons (by decide)]
  simp only
  cases fuel with
  | zero => cases read
  | succ fuel =>
    split
    · next closes =>
      rw [readEntries, closes] at read
      cases read
    · have same : skipGap (skipGap cs) = skipGap cs := List.dropWhile_idempotent _ _
      have skipped : readEntries (fuel + 1) levels [] (skipGap cs) = readEntries (fuel + 1) levels [] cs := by
        rw [readEntries, readEntries, same]
      rw [skipped, read, Option.map_some, List.reverse_reverse]

end Value

section Items

variable {fuel levels : Nat} {read : List Json} {cs close gap rest : List Char} {item : Json}

theorem readItems_last (isGaps : ∀ c ∈ gap, isGap c)
    (found : readValue fuel levels cs = some (item, gap ++ ']' :: rest)) :
    readItems (fuel + 1) levels read cs = some (item :: read, rest) := by
  have closes : skipGap (gap ++ ']' :: rest) = ']' :: rest := by
    rw [skipGap_append isGaps, skipGap_cons (by decide)]
  rw [readItems, found]
  simp only [closes]

theorem readItems_next (found : readValue fuel levels cs = some (item, ',' :: rest)) :
    readItems (fuel + 1) levels read cs = readItems fuel levels (item :: read) rest := by
  have divides : skipGap (',' :: rest) = ',' :: rest := skipGap_cons (by decide)
  rw [readItems, found]
  simp only [divides]

end Items

section Entries

variable {fuel levels : Nat} {read : List (String × Json)} {cs gap rest : List Char} {key : String}
  {value : Json}

theorem skipGap_quoted (isGaps : ∀ c ∈ gap, isGap c) :
    skipGap (gap ++ (quoted key ++ rest)) = '"' :: (key.toList.flatMap escapeChar ++ '"' :: rest) := by
  rw [skipGap_append isGaps, quoted, List.cons_append, skipGap_cons (by decide), List.append_assoc]
  rfl

theorem readEntries_last {closing : List Char} (isGaps : ∀ c ∈ gap, isGap c)
    (closingGaps : ∀ c ∈ closing, isGap c)
    (found : readValue fuel levels cs = some (value, closing ++ '\x7d' :: rest)) :
    readEntries (fuel + 1) levels read (gap ++ (quoted key ++ ':' :: cs)) = some ((key, value) :: read, rest) := by
  have closes : skipGap (closing ++ '\x7d' :: rest) = '\x7d' :: rest := by
    rw [skipGap_append closingGaps, skipGap_cons (by decide)]
  have colon : skipGap (':' :: cs) = ':' :: cs := skipGap_cons (by decide)
  rw [readEntries, skipGap_quoted isGaps]
  simp only [readString_quoted, colon, found, closes]

theorem readEntries_next (isGaps : ∀ c ∈ gap, isGap c)
    (found : readValue fuel levels cs = some (value, ',' :: rest)) :
    readEntries (fuel + 1) levels read (gap ++ (quoted key ++ ':' :: cs)) =
      readEntries fuel levels ((key, value) :: read) rest := by
  have divides : skipGap (',' :: rest) = ',' :: rest := skipGap_cons (by decide)
  have colon : skipGap (':' :: cs) = ':' :: cs := skipGap_cons (by decide)
  rw [readEntries, skipGap_quoted isGaps]
  simp only [readString_quoted, colon, found, divides]

end Entries

mutual

/-- A value is read again from its spelling, whatever follows. The fuel is spent on the characters. -/
theorem readValue_spell (s : Spacing) : ∀ (value : Json) {result : Json} (rest : List Char) {fuel levels depth : Nat},
    reread? levels value = some result → (spell s depth value).length < fuel → EndsNumber rest →
      readValue fuel levels (spell s depth value ++ rest) = some (result, rest)
  | _, _, _, 0, _, _, _, enough, _ => absurd enough (Nat.not_lt_zero _)
  | .null, _, _, _ + 1, _, _, reads, _, _ => by
    cases reads
    rfl
  | .bool true, _, _, _ + 1, _, _, reads, _, _ => by
    cases reads
    rfl
  | .bool false, _, _, _ + 1, _, _, reads, _, _ => by
    cases reads
    rfl
  | .int value, _, _, _ + 1, _, _, reads, _, ends => by
    obtain ⟨inRange, same⟩ := Option.ite_none_right_eq_some.mp reads
    cases same
    rw [spell]
    exact readValue_int inRange ends
  | .real value, _, _, _ + 1, _, _, reads, _, ends => by
    obtain ⟨number, holds, rfl⟩ := Option.map_eq_some_iff.mp reads
    rw [spell]
    exact readValue_real holds ends
  | .str text, _, _, _ + 1, _, _, reads, _, _ => by
    cases reads
    rw [spell]
    exact readValue_str text
  | .arr [], _, _, _ + 1, _ + 1, _, reads, _, _ => by
    cases reads
    rfl
  | .arr _, _, _, _ + 1, 0, _, reads, _, _ => nomatch reads
  | .arr (item :: items), _, rest, fuel + 1, levels + 1, depth, reads, enough, _ => by
    obtain ⟨results, each, rfl⟩ := Option.map_eq_some_iff.mp reads
    rw [spell, List.length_cons] at enough
    rw [spell, List.cons_append]
    have read := readItems_spell s (item :: items) [] rest (List.cons_ne_nil _ _) (s.closing_gap depth) each
      (Nat.lt_of_succ_lt_succ enough)
    rw [List.append_nil] at read
    exact readValue_arr read
  | .obj [], _, _, _ + 1, _ + 1, _, reads, _, _ => by
    cases reads
    rfl
  | .obj _, _, _, _ + 1, 0, _, reads, _, _ => nomatch reads
  | .obj (entry :: entries), _, rest, fuel + 1, levels + 1, depth, reads, enough, _ => by
    obtain ⟨results, each, rfl⟩ := Option.map_eq_some_iff.mp reads
    rw [spell, List.length_cons] at enough
    rw [spell, List.cons_append]
    have read := readEntries_spell s (entry :: entries) [] rest (List.cons_ne_nil _ _) (s.closing_gap depth) each
      (Nat.lt_of_succ_lt_succ enough)
    rw [List.append_nil] at read
    exact readValue_obj read

theorem readItems_spell (s : Spacing) : ∀ (items : List Json) {results : List Json} (read : List Json)
    (rest : List Char) {fuel levels depth : Nat} {gap : List Char}, items ≠ [] → (∀ c ∈ gap, isGap c) →
      rereadItems? levels items = some results → (spellItems s depth (gap ++ [']']) items).length < fuel →
        readItems fuel levels read (spellItems s depth (gap ++ [']']) items ++ rest) =
          some (results.reverse ++ read, rest)
  | [], _, _, _, _, _, _, _, nonempty, _, _, _ => absurd rfl nonempty
  | _, _, _, _, 0, _, _, _, _, _, _, enough => absurd enough (Nat.not_lt_zero _)
  | [item], _, read, rest, fuel + 1, levels, depth, gap, _, isGaps, reads, enough => by
    obtain ⟨first, readsFirst, none⟩ := Option.bind_eq_some_iff.mp reads
    cases none
    simp only [spellItems, List.length_append, List.length_singleton] at enough
    have found : readValue fuel levels (s.before depth ++ (spell s depth item ++ (gap ++ ']' :: rest))) =
        some (first, gap ++ ']' :: rest) := by
      rw [readValue_gap_append (s.before_gap depth)]
      exact readValue_spell s item _ readsFirst (by omega) (endsNumber_of_gap isGaps (by decide))
    simp only [spellItems, List.append_assoc, List.singleton_append]
    exact readItems_last isGaps found
  | item :: next :: items, _, read, rest, fuel + 1, levels, depth, gap, _, isGaps, reads, enough => by
    obtain ⟨first, readsFirst, mapped⟩ := Option.bind_eq_some_iff.mp reads
    obtain ⟨results, others, rfl⟩ := Option.map_eq_some_iff.mp mapped
    simp only [spellItems, List.length_append, List.length_cons] at enough
    have found : readValue fuel levels (s.before depth ++ (spell s depth item ++
        ',' :: (spellItems s depth (gap ++ [']']) (next :: items) ++ rest))) =
          some (first, ',' :: (spellItems s depth (gap ++ [']']) (next :: items) ++ rest)) := by
      rw [readValue_gap_append (s.before_gap depth)]
      exact readValue_spell s item _ readsFirst (by omega) (endsNumber_cons (by decide))
    have further := readItems_spell s (next :: items) (first :: read) rest (List.cons_ne_nil _ _) isGaps others
      (by omega : (spellItems s depth (gap ++ [']']) (next :: items)).length < fuel)
    simp only [spellItems, List.append_assoc, List.cons_append]
    rw [readItems_next found, further]
    simp

theorem readEntries_spell (s : Spacing) : ∀ (entries : List (String × Json)) {results : List (String × Json)}
    (read : List (String × Json)) (rest : List Char) {fuel levels depth : Nat} {gap : List Char}, entries ≠ [] →
      (∀ c ∈ gap, isGap c) → rereadEntries? levels entries = some results →
        (spellEntries s depth (gap ++ ['\x7d']) entries).length < fuel →
          readEntries fuel levels read (spellEntries s depth (gap ++ ['\x7d']) entries ++ rest) =
            some (results.reverse ++ read, rest)
  | [], _, _, _, _, _, _, _, nonempty, _, _, _ => absurd rfl nonempty
  | _, _, _, _, 0, _, _, _, _, _, _, enough => absurd enough (Nat.not_lt_zero _)
  | [(key, value)], _, read, rest, fuel + 1, levels, depth, gap, _, isGaps, reads, enough => by
    obtain ⟨first, readsFirst, none⟩ := Option.bind_eq_some_iff.mp reads
    cases none
    simp only [spellEntries, List.length_append, List.length_cons] at enough
    have found : readValue fuel levels (s.colon ++ (spell s depth value ++ (gap ++ '\x7d' :: rest))) =
        some (first, gap ++ '\x7d' :: rest) := by
      rw [readValue_gap_append s.colon_gap]
      exact readValue_spell s value _ readsFirst (by omega) (endsNumber_of_gap isGaps (by decide))
    simp only [spellEntries, List.append_assoc, List.cons_append, List.nil_append]
    exact readEntries_last (s.before_gap depth) isGaps found
  | (key, value) :: next :: entries, _, read, rest, fuel + 1, levels, depth, gap, _, isGaps, reads, enough => by
    obtain ⟨first, readsFirst, mapped⟩ := Option.bind_eq_some_iff.mp reads
    obtain ⟨results, others, rfl⟩ := Option.map_eq_some_iff.mp mapped
    simp only [spellEntries, List.length_append, List.length_cons] at enough
    have found : readValue fuel levels (s.colon ++ (spell s depth value ++
        ',' :: (spellEntries s depth (gap ++ ['\x7d']) (next :: entries) ++ rest))) =
          some (first, ',' :: (spellEntries s depth (gap ++ ['\x7d']) (next :: entries) ++ rest)) := by
      rw [readValue_gap_append s.colon_gap]
      exact readValue_spell s value _ readsFirst (by omega) (endsNumber_cons (by decide))
    have further := readEntries_spell s (next :: entries) ((key, first) :: read) rest (List.cons_ne_nil _ _) isGaps
      others (by omega : (spellEntries s depth (gap ++ ['\x7d']) (next :: entries)).length < fuel)
    simp only [spellEntries, List.append_assoc, List.cons_append]
    rw [readEntries_next (s.before_gap depth) found, further]
    simp

end

/-- A text that spells a value is parsed as what that value comes to. -/
theorem parse?_of_spell {text : String} {s : Spacing} {depth : Nat} {value result : Json}
    (spells : text.toList = spell s depth value) (reads : reread? 127 value = some result) :
    parse? text = some result := by
  have enough : (spell s depth value).length < text.toList.length + 1 := by
    rw [spells]
    exact Nat.lt_succ_self _
  have ends : EndsNumber [] := fun _ first => by cases first
  have read := readValue_spell s value [] reads enough ends
  rw [List.append_nil, ← spells] at read
  rw [parse?, readFirst, read]
  rfl

def Spacing.none : Spacing where
  before _ := []
  closing _ := []
  colon := []
  before_gap := by simp
  closing_gap := by simp
  colon_gap := by simp

/-- A new line for every item and every closing bracket. -/
def Spacing.lines : Spacing where
  before depth := '\n' :: List.replicate (2 * depth) ' '
  closing depth := '\n' :: List.replicate (2 * depth) ' '
  colon := [' ']
  before_gap := by simp [isGap]
  closing_gap := by simp [isGap]
  colon_gap := by simp [isGap]

theorem toList_quote (text : String) : (quote text).toList = quoted text := by
  rw [quote, quoted, String.toList_ofList]

mutual

theorem toList_compact : ∀ (value : Json) (depth : Nat), (compact value).toList = spell .none depth value
  | .null, _ => rfl
  | .bool true, _ => rfl
  | .bool false, _ => rfl
  | .int _, _ => by rw [compact, spell]
  | .real _, _ => by rw [compact, spell]
  | .str text, _ => by rw [compact, spell, toList_quote]
  | .arr [], _ => by simp [compact, compactItems, spell]
  | .arr (item :: items), depth => by
    have inside := toList_compactItems (item :: items) (depth + 1) [']']
    rw [compact, spell, String.toList_append, String.toList_append, List.append_assoc]
    exact congrArg _ inside
  | .obj [], _ => by simp [compact, compactEntries, spell]
  | .obj (entry :: entries), depth => by
    have inside := toList_compactEntries (entry :: entries) (depth + 1) ['\x7d']
    rw [compact, spell, String.toList_append, String.toList_append, List.append_assoc]
    exact congrArg _ inside

theorem toList_compactItems : ∀ (items : List Json) (depth : Nat) (close : List Char),
    (",".intercalate (compactItems items)).toList ++ close = spellItems .none depth close items
  | [], _, _ => by simp [compactItems, spellItems]
  | [item], depth, close => by
    rw [compactItems, compactItems, String.intercalate_singleton, toList_compact item depth, spellItems]
    rfl
  | item :: next :: items, depth, close => by
    have others := toList_compactItems (next :: items) depth close
    rw [compactItems] at others
    rw [compactItems, compactItems, String.intercalate_cons_cons, String.toList_append, String.toList_append,
      toList_compact item depth, spellItems, ← others]
    simp [Spacing.none]

theorem toList_compactEntries : ∀ (entries : List (String × Json)) (depth : Nat) (close : List Char),
    (",".intercalate (compactEntries entries)).toList ++ close = spellEntries .none depth close entries
  | [], _, _ => by simp [compactEntries, spellEntries]
  | [(key, value)], depth, close => by
    rw [compactEntries, compactEntries, String.intercalate_singleton, spellEntries,
      ← toList_compact value depth, ← toList_quote]
    simp [Spacing.none]
  | (key, value) :: next :: entries, depth, close => by
    have others := toList_compactEntries (next :: entries) depth close
    rw [compactEntries] at others
    rw [compactEntries, compactEntries, String.intercalate_cons_cons, spellEntries, ← others,
      ← toList_compact value depth, ← toList_quote]
    simp [Spacing.none]

end

mutual

theorem toList_layout : ∀ (value : Json) (depth : Nat), (layout depth value).toList = spell .lines depth value
  | .null, _ => rfl
  | .bool true, _ => rfl
  | .bool false, _ => rfl
  | .int _, _ => by rw [layout, spell]
  | .real _, _ => by rw [layout, spell]
  | .str text, _ => by rw [layout, spell, toList_quote]
  | .arr [], _ => by simp [layout, spell]
  | .arr (item :: items), depth => by
    have inside := toList_layoutItems (item :: items) (depth + 1) (Spacing.lines.closing depth ++ [']'])
      (List.cons_ne_nil _ _)
    rw [layout, spell, ← inside]
    · simp [Spacing.lines, margin]
    · exact List.cons_ne_nil _ _
  | .obj [], _ => by simp [layout, spell]
  | .obj (entry :: entries), depth => by
    have inside := toList_layoutEntries (entry :: entries) (depth + 1) (Spacing.lines.closing depth ++ ['\x7d'])
      (List.cons_ne_nil _ _)
    rw [layout, spell, ← inside]
    · simp [Spacing.lines, margin]
    · exact List.cons_ne_nil _ _

theorem toList_layoutItems : ∀ (items : List Json) (depth : Nat) (close : List Char), items ≠ [] →
    '\n' :: ((",\n".intercalate (layoutItems depth items)).toList ++ close) = spellItems .lines depth close items
  | [], _, _, nonempty => absurd rfl nonempty
  | [item], depth, close, _ => by
    rw [layoutItems, layoutItems, String.intercalate_singleton, spellItems, ← toList_layout item depth]
    simp [Spacing.lines, margin]
  | item :: next :: items, depth, close, _ => by
    have others := toList_layoutItems (next :: items) depth close (List.cons_ne_nil _ _)
    rw [layoutItems] at others
    rw [layoutItems, layoutItems, String.intercalate_cons_cons, spellItems, ← others, ← toList_layout item depth]
    simp [Spacing.lines, margin]

theorem toList_layoutEntries : ∀ (entries : List (String × Json)) (depth : Nat) (close : List Char), entries ≠ [] →
    '\n' :: ((",\n".intercalate (layoutEntries depth entries)).toList ++ close) =
      spellEntries .lines depth close entries
  | [], _, _, nonempty => absurd rfl nonempty
  | [(key, value)], depth, close, _ => by
    rw [layoutEntries, layoutEntries, String.intercalate_singleton, spellEntries, ← toList_layout value depth,
      ← toList_quote]
    simp [Spacing.lines, margin]
  | (key, value) :: next :: entries, depth, close, _ => by
    have others := toList_layoutEntries (next :: entries) depth close (List.cons_ne_nil _ _)
    rw [layoutEntries] at others
    rw [layoutEntries, layoutEntries, String.intercalate_cons_cons, spellEntries, ← others,
      ← toList_layout value depth, ← toList_quote]
    simp [Spacing.lines, margin]

end

theorem parse?_compact {value result : Json} (reads : reread? 127 value = some result) :
    parse? value.compact = some result :=
  parse?_of_spell (toList_compact value 0) reads

theorem parse?_pretty {value result : Json} (reads : reread? 127 value = some result) :
    parse? value.pretty = some result :=
  parse?_of_spell (toList_layout value 0) reads

end Json

end CodeSurvey
