import Mathlib.Algebra.Group.Int.Defs
import Mathlib.Algebra.Group.Nat.Defs
import Mathlib.Data.List.TakeWhile
import Mathlib.Data.Option.Basic
import CodeSurvey.Json.Reader
import CodeSurvey.Json.Writer

namespace CodeSurvey

namespace Json

/-- A character that would be taken for a part of the number before it. -/
def continuesNumber (c : Char) : Bool :=
  isDigitChar c || c == '.' || c == 'e' || c == 'E'

/-- What may follow a number. -/
def EndsNumber (rest : List Char) : Prop :=
  ∀ c ∈ rest.head?, ¬continuesNumber c

section Number

variable {cs digits left rest : List Char}

theorem EndsNumber.noDigit {c : Char} (ends : EndsNumber (c :: rest)) : ¬isDigitChar c := by
  intro digit
  exact ends c rfl (by simp [continuesNumber, digit])

theorem takeWhile_append_of_ends (ends : EndsNumber rest) :
    (cs ++ rest).takeWhile isDigitChar = cs.takeWhile isDigitChar := by
  induction cs with
  | nil =>
    cases rest with
    | nil => rfl
    | cons c rest => exact List.takeWhile_cons_of_neg ends.noDigit
  | cons c cs ih => rw [List.cons_append, List.takeWhile_cons, List.takeWhile_cons, ih]

theorem dropWhile_append_of_ends (ends : EndsNumber rest) :
    (cs ++ rest).dropWhile isDigitChar = cs.dropWhile isDigitChar ++ rest := by
  induction cs with
  | nil =>
    cases rest with
    | nil => rfl
    | cons c rest => exact List.dropWhile_cons_of_neg ends.noDigit
  | cons c cs ih =>
    rw [List.cons_append, List.dropWhile_cons, List.dropWhile_cons]
    split
    · exact ih
    · rfl

theorem readFraction_of_ends (ends : EndsNumber rest) : readFraction rest = some ([], rest) := by
  unfold readFraction
  split
  · exact absurd (ends '.' rfl) (by decide)
  · rfl

theorem readFraction_append (ends : EndsNumber rest) (read : readFraction cs = some (digits, left)) :
    readFraction (cs ++ rest) = some (digits, left ++ rest) := by
  unfold readFraction at read
  split at read
  · next cs =>
    rw [List.cons_append, readFraction, takeWhile_append_of_ends ends, dropWhile_append_of_ends ends]
    cases taken : cs.takeWhile isDigitChar with
    | nil =>
      rw [taken] at read
      cases read
    | cons d ds =>
      rw [taken] at read
      cases read
      rfl
  · next other =>
    cases read
    cases cs with
    | nil => exact readFraction_of_ends ends
    | cons c cs =>
      rw [List.cons_append, readFraction]
      exact fun rest same => other cs (by cases same; rfl)

theorem readExponentDigits_append {negative : Bool} {power : Option Int} (ends : EndsNumber rest)
    (read : readExponentDigits negative cs = some (power, left)) :
    readExponentDigits negative (cs ++ rest) = some (power, left ++ rest) := by
  unfold readExponentDigits at read ⊢
  rw [takeWhile_append_of_ends ends, dropWhile_append_of_ends ends]
  cases taken : cs.takeWhile isDigitChar with
  | nil =>
    rw [taken] at read
    cases read
  | cons d ds =>
    rw [taken] at read
    cases read
    rfl

theorem readExponent_of_ends (ends : EndsNumber rest) : readExponent rest = some (none, rest) := by
  cases rest with
  | nil => rfl
  | cons c rest =>
    have noMark : ¬(c == 'e' || c == 'E') := by
      intro mark
      refine ends c rfl ?_
      rw [continuesNumber, Bool.or_assoc, mark, Bool.or_true]
    unfold readExponent
    exact if_neg noMark

/-- The digits of a power of ten start with no sign, so what follows the mark is read the same. -/
theorem readExponent_append {power : Option Int} (ends : EndsNumber rest)
    (read : readExponent cs = some (power, left)) : readExponent (cs ++ rest) = some (power, left ++ rest) := by
  cases cs with
  | nil =>
    cases read
    exact readExponent_of_ends ends
  | cons c cs =>
    rw [List.cons_append]
    unfold readExponent at read ⊢
    dsimp only at read ⊢
    split at read
    · next mark =>
      rw [if_pos mark]
      split at read
      · exact readExponentDigits_append ends read
      · exact readExponentDigits_append ends read
      · next noPlus noMinus =>
        have appended := readExponentDigits_append ends read
        cases cs with
        | nil => cases read
        | cons d cs =>
          rw [List.cons_append] at appended ⊢
          split
          · next same => exact (noPlus cs (by cases same; rfl)).elim
          · next same => exact (noMinus cs (by cases same; rfl)).elim
          · exact appended
    · next noMark =>
      rw [if_neg noMark]
      cases read
      rfl

theorem head?_append_of_ends (ends : EndsNumber rest) :
    ((cs ++ rest).head? == some '.') = (cs.head? == some '.') := by
  cases cs with
  | cons c cs => rfl
  | nil =>
    cases rest with
    | nil => rfl
    | cons c rest =>
      have noPoint : c ≠ '.' := by
        rintro rfl
        exact absurd (ends '.' rfl) (by decide)
      simp [noPoint]

/-- A number is read the same whatever follows it. -/
theorem readNumber_append {negative : Bool} {value : Json} (ends : EndsNumber rest)
    (read : readNumber negative cs = some (value, left)) :
    readNumber negative (cs ++ rest) = some (value, left ++ rest) := by
  unfold readNumber at read ⊢
  simp only [takeWhile_append_of_ends ends, dropWhile_append_of_ends ends, head?_append_of_ends ends]
  obtain ⟨_, proper, read⟩ := Option.bind_eq_some_iff.mp read
  obtain ⟨⟨fraction, afterFraction⟩, readFraction, read⟩ := Option.bind_eq_some_iff.mp read
  obtain ⟨⟨power, afterPower⟩, readPower, read⟩ := Option.bind_eq_some_iff.mp read
  rw [proper, readFraction_append ends readFraction]
  simp only [Option.bind_eq_bind, Option.bind_some]
  rw [readExponent_append ends readPower]
  simp only [Option.bind_some]
  dsimp only at read
  split at read
  · next plain =>
    obtain ⟨whole, found, same⟩ := Option.bind_eq_some_iff.mp read
    cases same
    rw [if_pos plain, found]
    rfl
  · next marked =>
    obtain ⟨x, found, same⟩ := Option.bind_eq_some_iff.mp read
    cases same
    rw [if_neg marked, found]
    rfl

end Number

section Whole

variable {n : Nat}

theorem isDigitChar_of_mem_toDigits {c : Char} (member : c ∈ Nat.toDigits 10 n) : isDigitChar c := by
  have digit := Nat.isDigit_of_mem_toDigits (by decide) (by decide) member
  simp only [Char.isDigit, Bool.and_eq_true, decide_eq_true_eq] at digit
  simp only [isDigitChar, Bool.and_eq_true, decide_eq_true_eq, Char.le_def]
  exact digit

theorem decimalValue_toDigits (n : Nat) : decimalValue (Nat.toDigits 10 n) = n :=
  Nat.ofDigitChars_ten_toDigits

theorem head?_toDigits (positive : 0 < n) : (Nat.toDigits 10 n).head? ≠ some '0' := by
  induction n using Nat.strongRecOn with
  | _ n ih =>
    by_cases small : n < 10
    · rw [Nat.toDigits_of_lt_base small, List.head?_cons]
      simpa using Nat.ne_of_gt positive
    · rw [Nat.toDigits_of_base_le (by decide) (by omega), List.head?_append,
        Option.or_of_isSome (List.isSome_head?.mpr Nat.toDigits_ne_nil)]
      exact ih (n / 10) (by omega) (by omega)

theorem readNumber_toDigits (negative : Bool) (n : Nat) :
    readNumber negative (Nat.toDigits 10 n) =
      (wholeNumber? negative (Nat.toDigits 10 n)).map fun value => (value, []) := by
  have taken : (Nat.toDigits 10 n).takeWhile isDigitChar = Nat.toDigits 10 n :=
    List.takeWhile_eq_self_iff.mpr fun c => isDigitChar_of_mem_toDigits
  have dropped : (Nat.toDigits 10 n).dropWhile isDigitChar = [] :=
    List.dropWhile_eq_nil_iff.mpr fun c => isDigitChar_of_mem_toDigits
  have proper : (!(Nat.toDigits 10 n).isEmpty &&
      ((Nat.toDigits 10 n).length == 1 || (Nat.toDigits 10 n).head? != some '0')) = true := by
    cases n with
    | zero => decide
    | succ n =>
      have leading := head?_toDigits (Nat.succ_pos n)
      simp [Nat.toDigits_ne_nil, leading]
  unfold readNumber
  simp only [taken, dropped, proper]
  cases wholeNumber? negative (Nat.toDigits 10 n) <;> rfl

theorem wholeNumber?_toDigits (bounded : n < 2 ^ 64) :
    wholeNumber? false (Nat.toDigits 10 n) = some (.int n) := by
  rw [wholeNumber?, decimalValue_toDigits]
  exact if_pos bounded

theorem wholeNumber?_toDigits_negative (positive : 0 < n) (bounded : n ≤ 2 ^ 63) :
    wholeNumber? true (Nat.toDigits 10 n) = some (.int (-n)) := by
  have nonzero : ¬(n == 0) := by simpa using Nat.ne_of_gt positive
  rw [wholeNumber?, decimalValue_toDigits, if_pos rfl, if_neg nonzero]
  exact if_pos bounded

end Whole

/-- A character is written by a backslash and a letter for it, by its code, or as it is. -/
theorem escapeChar_cases (c : Char) :
    (∃ letter, letter ≠ 'u' ∧ simpleEscape? letter = some c ∧ escapeChar c = ['\\', letter]) ∨
      (c.toNat < 32 ∧ escapeChar c = '\\' :: 'u' :: '0' :: '0' :: Digest.hexByte c.toNat) ∨
      (c ≠ '"' ∧ c ≠ '\\' ∧ ¬c.toNat < 32 ∧ escapeChar c = [c]) := by
  by_cases short : c ∈ ['"', '\\', '\n', '\r', '\t', Char.ofNat 8, Char.ofNat 12]
  · left
    simp only [List.mem_cons, List.not_mem_nil, or_false] at short
    rcases short with rfl | rfl | rfl | rfl | rfl | rfl | rfl
    · exact ⟨'"', by decide⟩
    · exact ⟨'\\', by decide⟩
    · exact ⟨'n', by decide⟩
    · exact ⟨'r', by decide⟩
    · exact ⟨'t', by decide⟩
    · exact ⟨'b', by decide⟩
    · exact ⟨'f', by decide⟩
  · right
    simp only [List.mem_cons, List.not_mem_nil, or_false, not_or] at short
    obtain ⟨quote, backslash, newline, ret, tab, backspace, feed⟩ := short
    have noBackspace : c.toNat ≠ 8 := fun same => backspace (Char.toNat_inj.mp same)
    have noFeed : c.toNat ≠ 12 := fun same => feed (Char.toNat_inj.mp same)
    by_cases control : c.toNat < 32
    · exact Or.inl ⟨control, by simp [escapeChar, *]⟩
    · exact Or.inr ⟨quote, backslash, control, by simp [escapeChar, *]⟩

section Quoted

variable {fuel : Nat} {read rest : List Char}

theorem readStringRest_letter {letter c : Char} (noCode : letter ≠ 'u')
    (stands : simpleEscape? letter = some c) :
    readStringRest (fuel + 1) read ('\\' :: letter :: rest) = readStringRest fuel (c :: read) rest := by
  rw [readStringRest, stands]
  · rfl
  · exact fun _ _ _ _ _ same _ => noCode same

theorem hexValue?_hexByte : ∀ n < 32, hexValue? ('0' :: '0' :: Digest.hexByte n) = some n := by
  decide

theorem readStringRest_code {c : Char} (control : c.toNat < 32) :
    readStringRest (fuel + 1) read ('\\' :: 'u' :: '0' :: '0' :: (Digest.hexByte c.toNat ++ rest)) =
      readStringRest fuel (c :: read) rest := by
  have value := hexValue?_hexByte c.toNat control
  have low : ¬(0xD800 ≤ c.toNat && c.toNat < 0xDC00) := by simp; omega
  have plain : (c.toNat < 0xD800 || 0xE000 ≤ c.toNat) = true := by simp; omega
  unfold Digest.hexByte at value ⊢
  simp only [List.cons_append, List.nil_append]
  rw [readStringRest, value]
  simp only [Option.bind_eq_bind, Option.bind_some]
  rw [if_neg low, plain, Char.ofNat_toNat]
  rfl

theorem readStringRest_plain {c : Char} (noQuote : c ≠ '"') (noBackslash : c ≠ '\\') (visible : ¬c.toNat < 32) :
    readStringRest (fuel + 1) read (c :: rest) = readStringRest fuel (c :: read) rest := by
  rw [readStringRest, if_neg visible]
  · exact noQuote
  · exact fun _ _ _ _ _ same _ => noBackslash same
  · exact fun _ _ same _ => noBackslash same

/-- What stands for one character is read as that character. -/
theorem readStringRest_escapeChar (c : Char) :
    readStringRest (fuel + 1) read (escapeChar c ++ rest) = readStringRest fuel (c :: read) rest := by
  rcases escapeChar_cases c with ⟨letter, noCode, stands, written⟩ | ⟨control, written⟩ |
    ⟨noQuote, noBackslash, visible, written⟩
  · rw [written]
    exact readStringRest_letter noCode stands
  · rw [written]
    exact readStringRest_code control
  · rw [written]
    exact readStringRest_plain noQuote noBackslash visible

theorem readStringRest_escaped (cs : List Char) (enough : cs.length < fuel) :
    readStringRest fuel read (cs.flatMap escapeChar ++ '"' :: rest) = some (cs.reverse ++ read, rest) := by
  induction cs generalizing fuel read with
  | nil =>
    cases fuel with
    | zero => cases enough
    | succ fuel => rfl
  | cons c cs ih =>
    cases fuel with
    | zero => cases enough
    | succ fuel =>
      rw [List.flatMap_cons, List.append_assoc, readStringRest_escapeChar, ih (by simpa using enough)]
      simp

theorem length_le_escaped (cs : List Char) : cs.length ≤ (cs.flatMap escapeChar).length := by
  induction cs with
  | nil => exact Nat.le_refl 0
  | cons c cs ih =>
    have written : 0 < (escapeChar c).length := by
      rcases escapeChar_cases c with ⟨_, _, _, same⟩ | ⟨_, same⟩ | ⟨_, _, _, same⟩ <;> simp [same]
    rw [List.flatMap_cons, List.length_append, List.length_cons]
    omega

/-- A text between quotes is read as that text. -/
theorem readString_quoted (text : String) :
    readString (text.toList.flatMap escapeChar ++ '"' :: rest) = some (text, rest) := by
  rw [readString, readStringRest_escaped]
  · simp
  · have long := length_le_escaped text.toList
    rw [List.length_append]
    omega

end Quoted

end Json

end CodeSurvey
