import CodeSurvey.Decimal.Shortest
import CodeSurvey.Digest.Sha256
import CodeSurvey.Json.Value

namespace CodeSurvey

namespace Json

/-- A character inside quotes. Control characters, the quote and the backslash are escaped. -/
def escapeChar (c : Char) : List Char :=
  if c == '"' then ['\\', '"']
  else if c == '\\' then ['\\', '\\']
  else if c == '\n' then ['\\', 'n']
  else if c == '\r' then ['\\', 'r']
  else if c == '\t' then ['\\', 't']
  else if c.toNat == 8 then ['\\', 'b']
  else if c.toNat == 12 then ['\\', 'f']
  else if c.toNat < 32 then '\\' :: 'u' :: '0' :: '0' :: Digest.hexByte c.toNat
  else [c]

def quote (text : String) : String :=
  String.ofList ('"' :: (text.toList.flatMap escapeChar ++ ['"']))

/-- One digit before the point, and the power of ten. -/
def scientific (d : Decimal.Digits) : String :=
  let digits := (toString d.digits).toList
  let power := d.scale + (digits.length : Int) - 1
  String.ofList (digits.take 1) ++
    (match digits.drop 1 with
      | [] => ""
      | rest => "." ++ String.ofList rest) ++ "e" ++ toString power

/-- A magnitude: in full from 0.00001 up to sixteen digits before the point, else as a power of ten. A
whole number keeps a point, so that it reads back as a floating-point number. -/
def magnitudeText (d : Decimal.Digits) : String :=
  let before := d.scale + Decimal.digitCount d.digits
  if -5 < before && before ≤ 16 then
    if 0 ≤ d.scale then d.positional ++ ".0" else d.positional
  else scientific d

/-- A number that is not finite has no text of its own and is written as null. -/
def realText (x : Float) : String :=
  match Decimal.read x with
  | .finite value => (if value.negative then "-" else "") ++ magnitudeText (value.shortest .toEven)
  | _ => "null"

mutual

/-- On one line, without spaces. -/
def compact : Json → String
  | .null => "null"
  | .bool value => if value then "true" else "false"
  | .int value => toString value
  | .real value => realText value
  | .str value => quote value
  | .arr items => "[" ++ ",".intercalate (compactItems items) ++ "]"
  | .obj entries => "\x7b" ++ ",".intercalate (compactEntries entries) ++ "\x7d"

def compactItems : List Json → List String
  | [] => []
  | item :: items => compact item :: compactItems items

def compactEntries : List (String × Json) → List String
  | [] => []
  | (key, value) :: entries => (quote key ++ ":" ++ compact value) :: compactEntries entries

end

def margin (depth : Nat) : String :=
  String.ofList (List.replicate (2 * depth) ' ')

mutual

/-- Over several lines, each level two spaces further in. -/
def layout (depth : Nat) : Json → String
  | .null => "null"
  | .bool value => if value then "true" else "false"
  | .int value => toString value
  | .real value => realText value
  | .str value => quote value
  | .arr [] => "[]"
  | .arr items =>
    "[\n" ++ ",\n".intercalate (layoutItems (depth + 1) items) ++ "\n" ++ margin depth ++ "]"
  | .obj [] => "\x7b\x7d"
  | .obj entries =>
    "\x7b\n" ++ ",\n".intercalate (layoutEntries (depth + 1) entries) ++ "\n" ++ margin depth ++ "\x7d"

def layoutItems (depth : Nat) : List Json → List String
  | [] => []
  | item :: items => (margin depth ++ layout depth item) :: layoutItems depth items

def layoutEntries (depth : Nat) : List (String × Json) → List String
  | [] => []
  | (key, value) :: entries =>
    (margin depth ++ quote key ++ ": " ++ layout depth value) :: layoutEntries depth entries

end

def pretty (value : Json) : String :=
  layout 0 value

end Json

end CodeSurvey
