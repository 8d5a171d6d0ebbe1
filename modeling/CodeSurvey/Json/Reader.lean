import CodeSurvey.Json.Value

namespace CodeSurvey

namespace Json

/-- The blanks between the tokens of a value. -/
def isGap (c : Char) : Bool :=
  c == ' ' || c == '\t' || c == '\n' || c == '\r'

def skipGap (cs : List Char) : List Char :=
  cs.dropWhile isGap

def isDigitChar (c : Char) : Bool :=
  '0' ≤ c && c ≤ '9'

def decimalValue (cs : List Char) : Nat :=
  cs.foldl (fun n c => 10 * n + (c.toNat - 48)) 0

def hexDigit? (c : Char) : Option Nat :=
  if '0' ≤ c && c ≤ '9' then some (c.toNat - 48)
  else if 'a' ≤ c && c ≤ 'f' then some (c.toNat - 87)
  else if 'A' ≤ c && c ≤ 'F' then some (c.toNat - 55)
  else none

def hexValue? (cs : List Char) : Option Nat :=
  cs.foldl (fun n c => do return 16 * (← n) + (← hexDigit? c)) (some 0)

/-- Digits read into 64 bits that hold `n` so far, and how many of them find no room there. -/
def packDigits (n : Nat) : List Char → Nat × Nat
  | [] => (n, 0)
  | c :: cs =>
    let next := 10 * n + (c.toNat - 48)
    if next < 0x10000000000000000 then packDigits next cs else (n, cs.length + 1)

def powerOfTen (n : Nat) : Float :=
  Float.ofScientific 1 false n

/-- `significand · 10 ^ exponent` in binary64, none when it is out of range. The significand is rounded to a
binary64 number before the power of ten is applied, so what comes out need not be the nearest number. Powers
of ten go up to 308; a smaller number is divided twice. -/
def realOfParts? (negative : Bool) (significand : Nat) (exponent : Int) : Option Float :=
  let start := Float.ofScientific significand false 0
  let places := exponent.natAbs
  let x :=
    if 0 ≤ exponent then
      if places ≤ 308 then start * powerOfTen places
      else if significand == 0 then 0.0
      else 1.0 / 0.0
    else if places ≤ 308 then start / powerOfTen places
    else if places ≤ 616 then start / powerOfTen 308 / powerOfTen (places - 308)
    else 0.0
  if x.isInf then none else some (if negative then -x else x)

/-- A number without point and exponent is whole when it fits into 64 bits. Otherwise the digits beyond them
count as zeros. -/
def wholeNumber? (negative : Bool) (digits : List Char) : Option Json :=
  let n := decimalValue digits
  let packed := packDigits 0 digits
  if negative then
    if n == 0 then some (.real (-0.0))
    else if n ≤ 0x8000000000000000 then some (.int (-n))
    else (realOfParts? true packed.1 packed.2).map .real
  else if n < 0x10000000000000000 then some (.int n)
  else (realOfParts? false packed.1 packed.2).map .real

/-- The digits after a point, when one stands there. -/
def readFraction : List Char → Option (List Char × List Char)
  | '.' :: rest =>
    match rest.takeWhile isDigitChar with
    | [] => none
    | digits => some (digits, rest.dropWhile isDigitChar)
  | rest => some ([], rest)

def readExponentDigits (negative : Bool) (cs : List Char) : Option (Option Int × List Char) :=
  match cs.takeWhile isDigitChar with
  | [] => none
  | digits =>
    let n : Int := decimalValue digits
    some (some (if negative then -n else n), cs.dropWhile isDigitChar)

/-- The power of ten after an `e`, when one stands there. -/
def readExponent : List Char → Option (Option Int × List Char)
  | c :: rest =>
    if c == 'e' || c == 'E' then
      match rest with
      | '+' :: rest => readExponentDigits false rest
      | '-' :: rest => readExponentDigits true rest
      | rest => readExponentDigits false rest
    else some (none, c :: rest)
  | [] => some (none, [])

/-- Digits after the point that find no room are passed over. -/
def readNumber (negative : Bool) (cs : List Char) : Option (Json × List Char) := do
  let digits := cs.takeWhile isDigitChar
  guard (!digits.isEmpty && (digits.length == 1 || digits.head? != some '0'))
  let rest := cs.dropWhile isDigitChar
  let hasPoint := rest.head? == some '.'
  let (fraction, rest) ← readFraction rest
  let (exponent, rest) ← readExponent rest
  if !hasPoint && exponent.isNone then
    return (← wholeNumber? negative digits, rest)
  else
    let whole := packDigits 0 digits
    let packed := packDigits whole.1 fraction
    let places := fraction.length - packed.2
    let x ← realOfParts? negative packed.1 (whole.2 - places + exponent.getD 0)
    return (.real x, rest)

/-- The character of a pair of surrogates. -/
def pairValue (high low : Nat) : Nat :=
  0x10000 + (high - 0xD800) * 0x400 + (low - 0xDC00)

def simpleEscape? (c : Char) : Option Char :=
  if c == '"' then some '"'
  else if c == '\\' then some '\\'
  else if c == '/' then some '/'
  else if c == 'b' then some (Char.ofNat 8)
  else if c == 'f' then some (Char.ofNat 12)
  else if c == 'n' then some '\n'
  else if c == 'r' then some '\r'
  else if c == 't' then some '\t'
  else none

/-- The characters up to the closing quote, in reverse; `fuel` bounds their number. -/
def readStringRest : Nat → List Char → List Char → Option (List Char × List Char)
  | 0, _, _ => none
  | fuel + 1, read, cs =>
    match cs with
    | '"' :: rest => some (read, rest)
    | '\\' :: 'u' :: a :: b :: c :: d :: rest => do
      let n ← hexValue? [a, b, c, d]
      if 0xD800 ≤ n && n < 0xDC00 then
        match rest with
        | '\\' :: 'u' :: a :: b :: c :: d :: rest =>
          let low ← hexValue? [a, b, c, d]
          guard (0xDC00 ≤ low && low < 0xE000)
          readStringRest fuel (Char.ofNat (pairValue n low) :: read) rest
        | _ => none
      else
        guard (n < 0xD800 || 0xE000 ≤ n)
        readStringRest fuel (Char.ofNat n :: read) rest
    | '\\' :: c :: rest => do
      readStringRest fuel ((← simpleEscape? c) :: read) rest
    | c :: rest => if c.toNat < 32 then none else readStringRest fuel (c :: read) rest
    | [] => none

/-- A string whose opening quote has been read. -/
def readString (cs : List Char) : Option (String × List Char) :=
  (readStringRest (cs.length + 1) [] cs).map fun (read, rest) => (String.ofList read.reverse, rest)

/-- Drops the characters of a word from the front. -/
def dropWord (word : String) (cs : List Char) : Option (List Char) :=
  if word.toList.isPrefixOf cs then some (cs.drop word.length) else none

mutual

/-- One value after blanks. `depth` is the number of levels that may still be opened. -/
def readValue : Nat → Nat → List Char → Option (Json × List Char)
  | 0, _, _ => none
  | fuel + 1, depth, cs =>
    match skipGap cs with
    | '"' :: rest => (readString rest).map fun (text, rest) => (.str text, rest)
    | '[' :: rest =>
      match depth with
      | 0 => none
      | depth + 1 =>
        match skipGap rest with
        | ']' :: rest => some (.arr [], rest)
        | rest => (readItems fuel depth [] rest).map fun (items, rest) => (.arr items.reverse, rest)
    | '{' :: rest =>
      match depth with
      | 0 => none
      | depth + 1 =>
        match skipGap rest with
        | '}' :: rest => some (.obj [], rest)
        | rest => (readEntries fuel depth [] rest).map fun (entries, rest) => (.obj entries.reverse, rest)
    | '-' :: rest => readNumber true rest
    | 't' :: rest => (dropWord "rue" rest).map fun rest => (.bool true, rest)
    | 'f' :: rest => (dropWord "alse" rest).map fun rest => (.bool false, rest)
    | 'n' :: rest => (dropWord "ull" rest).map fun rest => (.null, rest)
    | rest => readNumber false rest

/-- The items of an array up to its bracket, in reverse. -/
def readItems : Nat → Nat → List Json → List Char → Option (List Json × List Char)
  | 0, _, _, _ => none
  | fuel + 1, depth, read, cs =>
    match readValue fuel depth cs with
    | none => none
    | some (item, rest) =>
      match skipGap rest with
      | ',' :: rest => readItems fuel depth (item :: read) rest
      | ']' :: rest => some (item :: read, rest)
      | _ => none

/-- The entries of an object up to its brace, in reverse. -/
def readEntries : Nat → Nat → List (String × Json) → List Char →
    Option (List (String × Json) × List Char)
  | 0, _, _, _ => none
  | fuel + 1, depth, read, cs =>
    match skipGap cs with
    | '"' :: rest =>
      match readString rest with
      | none => none
      | some (key, rest) =>
        match skipGap rest with
        | ':' :: rest =>
          match readValue fuel depth rest with
          | none => none
          | some (value, rest) =>
            match skipGap rest with
            | ',' :: rest => readEntries fuel depth ((key, value) :: read) rest
            | '}' :: rest => some ((key, value) :: read, rest)
            | _ => none
        | _ => none
    | _ => none

end

/-- The value that a text holds, and what follows it. -/
def readFirst (text : String) : Option (Json × List Char) :=
  let cs := text.toList
  readValue (cs.length + 1) 127 cs

/-- The value of a text that holds one value and nothing else. -/
def parse? (text : String) : Option Json :=
  match readFirst text with
  | some (value, rest) => if (skipGap rest).isEmpty then some value else none
  | none => none

end Json

end CodeSurvey
