import CodeSurvey.Decimal.Numeral

namespace CodeSurvey

namespace Toml

open Json (isDigitChar decimalValue hexDigit? hexValue?)

def isSpace (c : Char) : Bool :=
  c == ' ' || c == '\t'

def skipSpace (cs : List Char) : List Char :=
  cs.dropWhile isSpace

/-- What may stand in strings and comments: no control characters but the tab. -/
def isPrintable (c : Char) : Bool :=
  c == '\t' || (32 ≤ c.toNat && c.toNat != 127)

/-- What follows a line end. -/
def dropNewline? : List Char → Option (List Char)
  | '\n' :: rest => some rest
  | '\r' :: '\n' :: rest => some rest
  | _ => none

/-- The character with a number, unless it is a surrogate or out of range. -/
def scalar? (n : Nat) : Option Char :=
  if n < 0xD800 || (0xE000 ≤ n && n < 0x110000) then some (Char.ofNat n) else none

def escapes : List (Char × Char) :=
  [('b', Char.ofNat 8), ('f', Char.ofNat 12), ('n', '\n'), ('r', '\r'), ('t', '\t'), ('\\', '\\'),
    ('"', '"')]

/-- The character that an escape stands for; its backslash has been read. -/
def readEscape : List Char → Option (Char × List Char)
  | 'u' :: rest =>
    if 4 ≤ rest.length then do return (← scalar? (← hexValue? (rest.take 4)), rest.drop 4) else none
  | 'U' :: rest =>
    if 8 ≤ rest.length then do return (← scalar? (← hexValue? (rest.take 8)), rest.drop 8) else none
  | c :: rest => (escapes.lookup c).map (·, rest)
  | [] => none

/-- A string on one line up to its closing quote; `read` is reversed. -/
def readLine (quote : Char) : Nat → List Char → List Char → Option (String × List Char)
  | 0, _, _ => none
  | fuel + 1, read, cs =>
    match cs with
    | [] => none
    | c :: rest =>
      if c == quote then some (String.ofList read.reverse, rest)
      else if c == '\\' && quote == '"' then do
        let (char, rest) ← readEscape rest
        readLine quote fuel (char :: read) rest
      else if isPrintable c then readLine quote fuel (c :: read) rest
      else none

/-- Drops blanks and line ends. -/
def skipBlankLines : Nat → List Char → List Char
  | 0, cs => cs
  | fuel + 1, cs =>
    match dropNewline? (skipSpace cs) with
    | some rest => skipBlankLines fuel rest
    | none => skipSpace cs

/-- The text after a backslash that ends a line: what follows all blanks and further line ends. -/
def continueLine? (cs : List Char) : Option (List Char) :=
  (dropNewline? (skipSpace cs)).map fun rest => skipBlankLines rest.length rest

/-- A string over several lines up to its three closing quotes. One or two quotes more before these
belong to it. -/
def readLines (quote : Char) : Nat → List Char → List Char → Option (String × List Char)
  | 0, _, _ => none
  | fuel + 1, read, cs =>
    match cs with
    | [] => none
    | c :: rest =>
      if c == quote then
        let run := min 5 (cs.takeWhile (· == quote)).length
        if 3 ≤ run then
          some (String.ofList ((List.replicate (run - 3) quote ++ read).reverse), cs.drop run)
        else readLines quote fuel (List.replicate run quote ++ read) (cs.drop run)
      else
        match dropNewline? cs with
        | some rest => readLines quote fuel ('\n' :: read) rest
        | none =>
          if c == '\\' && quote == '"' then
            match continueLine? rest with
            | some rest => readLines quote fuel read rest
            | none => do
              let (char, rest) ← readEscape rest
              readLines quote fuel (char :: read) rest
          else if isPrintable c then readLines quote fuel (c :: read) rest
          else none

/-- A string of any form. -/
def readString : List Char → Option (String × List Char)
  | '"' :: '"' :: '"' :: rest => readLines '"' (rest.length + 1) [] ((dropNewline? rest).getD rest)
  | '\'' :: '\'' :: '\'' :: rest =>
    readLines '\'' (rest.length + 1) [] ((dropNewline? rest).getD rest)
  | '"' :: rest => readLine '"' (rest.length + 1) [] rest
  | '\'' :: rest => readLine '\'' (rest.length + 1) [] rest
  | _ => none

def isBareKey (c : Char) : Bool :=
  isDigitChar c || ('a' ≤ c && c ≤ 'z') || ('A' ≤ c && c ≤ 'Z') || c == '_' || c == '-'

/-- One part of a key. -/
def readKeyPart : List Char → Option (String × List Char)
  | '"' :: rest => readLine '"' (rest.length + 1) [] rest
  | '\'' :: rest => readLine '\'' (rest.length + 1) [] rest
  | cs =>
    match cs.takeWhile isBareKey with
    | [] => none
    | key => some (String.ofList key, cs.dropWhile isBareKey)

/-- A key: parts joined by dots. `fuel` bounds their number. -/
def readKeyParts : Nat → List Char → Option (List String × List Char)
  | 0, _ => none
  | fuel + 1, cs => do
    let (part, rest) ← readKeyPart (skipSpace cs)
    match skipSpace rest with
    | '.' :: rest =>
      let (parts, rest) ← readKeyParts fuel rest
      return (part :: parts, rest)
    | rest => return ([part], rest)

/-- No key has eighty parts or more, and no value as many levels. -/
def depthLimit : Nat := 80

def readKey (cs : List Char) : Option (List String × List Char) :=
  readKeyParts (depthLimit - 1) cs

/-- Digits of a base with single underscores between them; none when they are anything else. -/
def digits? (isDigit : Char → Bool) (cs : List Char) : Option (List Char) :=
  let groups := Text.splitWhere (· == '_') cs
  if groups.all fun group => !group.isEmpty && group.all isDigit then some groups.flatten else none

def valueInBase (base : Nat) (cs : List Char) : Nat :=
  cs.foldl (fun n c => base * n + (hexDigit? c).getD 0) 0

/-- A whole number that 64 bits hold with a sign. -/
def whole? (n : Int) : Option Json :=
  if -0x8000000000000000 ≤ n ∧ n < 0x8000000000000000 then some (.int n) else none

/-- A sign and what follows it. -/
def splitSign : List Char → Bool × List Char
  | '-' :: rest => (true, rest)
  | '+' :: rest => (false, rest)
  | cs => (false, cs)

/-- Decimal digits without a zero in front. -/
def decimal? (cs : List Char) : Option (List Char) := do
  let digits ← digits? isDigitChar cs
  guard (digits.length == 1 || digits.head? != some '0')
  return digits

def integer? : List Char → Option Json
  | '0' :: 'x' :: rest => do
    whole? (valueInBase 16 (← digits? (fun c => (hexDigit? c).isSome) rest))
  | '0' :: 'o' :: rest => do whole? (valueInBase 8 (← digits? (fun c => '0' ≤ c && c ≤ '7') rest))
  | '0' :: 'b' :: rest => do whole? (valueInBase 2 (← digits? (fun c => c == '0' || c == '1') rest))
  | cs => do
    let (negative, rest) := splitSign cs
    let n : Int := decimalValue (← decimal? rest)
    whole? (if negative then -n else n)

/-- A number too large is refused, one too small is minus infinity. -/
def rounded? (negative : Bool) (mantissa : Nat) (exponent : Int) : Option Json :=
  match Decimal.nearest? negative mantissa exponent with
  | some x => some (.real x)
  | none => if negative then some (.real (-1.0 / 0.0)) else none

/-- The power of ten that stands after its mark. -/
def power? : List Char → Option Int
  | [] => some 0
  | _ :: power => do
    let (negative, digits) := splitSign power
    let n : Int := decimalValue (← digits? isDigitChar digits)
    return if negative then -n else n

def real? (cs : List Char) : Option Json := do
  let (negative, rest) := splitSign cs
  if rest == "inf".toList then
    return .real (if negative then -1.0 / 0.0 else 1.0 / 0.0)
  else if rest == "nan".toList then return .real (0.0 / 0.0)
  else
    let isMark (c : Char) : Bool := c == 'e' || c == 'E'
    guard (rest.any fun c => isMark c || c == '.')
    let front := rest.takeWhile fun c => !isMark c
    let whole := front.takeWhile (· != '.')
    let digits ← decimal? whole
    let fraction ← match front.drop whole.length with
      | [] => some []
      | _ :: fraction => digits? isDigitChar fraction
    let exponent ← power? (rest.drop front.length)
    rounded? negative (decimalValue (digits ++ fraction)) (exponent - fraction.length)

/-- A number of exactly so many digits, not above a limit. -/
def field? (width limit : Nat) (cs : List Char) : Option Nat :=
  if cs.length == width && cs.all isDigitChar && decimalValue cs ≤ limit then some (decimalValue cs)
  else none

def daysIn (year month : Nat) : Nat :=
  if month == 2 then if year % 4 == 0 && (year % 100 != 0 || year % 400 == 0) then 29 else 28
  else if month == 4 || month == 6 || month == 9 || month == 11 then 30
  else 31

def isDate (cs : List Char) : Bool :=
  match Text.splitWhere (· == '-') cs with
  | [year, month, day] =>
    match field? 4 9999 year, field? 2 12 month, field? 2 31 day with
    | some y, some m, some d => 1 ≤ m && 1 ≤ d && d ≤ daysIn y m
    | _, _, _ => false
  | _ => false

/-- Seconds with an optional fraction. -/
def isSecond (cs : List Char) : Bool :=
  match Text.splitWhere (· == '.') cs with
  | [second] => (field? 2 60 second).isSome
  | [second, fraction] =>
    (field? 2 60 second).isSome && !fraction.isEmpty && fraction.all isDigitChar
  | _ => false

def isTime (cs : List Char) : Bool :=
  match Text.splitWhere (· == ':') cs with
  | [hour, minute, second] =>
    (field? 2 23 hour).isSome && (field? 2 59 minute).isSome && isSecond second
  | _ => false

/-- The distance from universal time at the end of a date-time. -/
def isOffset : List Char → Bool
  | [] => true
  | ['Z'] | ['z'] => true
  | c :: rest =>
    (c == '+' || c == '-') &&
      match Text.splitWhere (· == ':') rest with
      | [hour, minute] => (field? 2 23 hour).isSome && (field? 2 59 minute).isSome
      | _ => false

def isTimeWithOffset (cs : List Char) : Bool :=
  let time := cs.takeWhile fun c => isDigitChar c || c == ':' || c == '.'
  isTime time && isOffset (cs.drop time.length)

/-- A date, a time, or a date and a time joined by a `T`. -/
def isDateTime (cs : List Char) : Bool :=
  let date := cs.take 10
  match cs.drop 10 with
  | [] => isDate cs || isTime cs
  | c :: time =>
    isTime cs || ((c == 'T' || c == 't') && isDate date && isTimeWithOffset time)

/-- A date or time is a value of its own kind: a record with a field that no setting has. -/
def moment (text : List Char) : Json :=
  .obj [("$moment", .str (String.ofList text))]

/-- The characters of numbers, dates and the words for truth values. -/
def isPlain (c : Char) : Bool :=
  isBareKey c || c == '+' || c == '.' || c == ':'

/-- A value that stands without quotes or brackets. A date may be joined to a time by a space. -/
def readPlain (cs : List Char) : Option (Json × List Char) :=
  let token := cs.takeWhile isPlain
  let rest := cs.dropWhile isPlain
  if token == "true".toList then some (.bool true, rest)
  else if token == "false".toList then some (.bool false, rest)
  else if isDate token then
    match rest with
    | ' ' :: c :: more =>
      if isDigitChar c then
        let time := (c :: more).takeWhile isPlain
        if isTimeWithOffset time then
          some (moment (token ++ ' ' :: time), (c :: more).dropWhile isPlain)
        else none
      else some (moment token, rest)
    | _ => some (moment token, rest)
  else if isDateTime token then some (moment token, rest)
  else ((integer? token).or (real? token)).map (·, rest)

end Toml

end CodeSurvey
