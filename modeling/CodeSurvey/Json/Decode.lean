import CodeSurvey.Json.Value

namespace CodeSurvey

namespace Json

def toBool? : Json → Option Bool
  | .bool value => some value
  | _ => none

def toString? : Json → Option String
  | .str value => some value
  | _ => none

/-- A count: a whole number that is not negative. -/
def toCount? : Json → Option Nat
  | .int value => if 0 ≤ value then some value.toNat else none
  | _ => none

/-- Any number, whole or not. -/
def toReal? : Json → Option Float
  | .int value => some (Float.ofInt value)
  | .real value => some value
  | _ => none

/-- All items of an array. -/
def toList? (read : Json → Option α) : Json → Option (List α)
  | .arr items => items.mapM read
  | _ => none

def toStrings? : Json → Option (List String) :=
  toList? toString?

/-- The entries of an object, a later value of a key replacing an earlier one. -/
def toMap? (read : Json → Option α) : Json → Option (NameMap α)
  | .obj entries => entries.foldlM (fun found e => do return found.insert e.1 (← read e.2)) ∅
  | _ => none

def toNameSet? (value : Json) : Option NameSet := do
  return Std.ExtTreeSet.ofList (← toStrings? value) compare

/-- A value that may be null. -/
def orNull? (read : Json → Option α) : Json → Option (Option α)
  | .null => some none
  | value => (read value).map some

/-- One of a fixed set of words. -/
def toWord? (words : List (String × α)) : Json → Option α
  | .str word => words.lookup word
  | .obj [(word, .null)] => words.lookup word
  | _ => none

/-- The fields of a record, by name or by place. -/
inductive Fields where
  | named (entries : List (String × Json))
  | placed (items : List Json)

/-- A value as a record of `count` fields. -/
def toFields? (count : Nat) : Json → Option Fields
  | .obj entries => some (.named entries)
  | .arr items => if items.length ≤ count then some (.placed items) else none
  | _ => none

namespace Fields

/-- The value given for a field; outermost none when a name is given twice. -/
def find? (fields : Fields) (place : Nat) (name : String) : Option (Option Json) :=
  match fields with
  | .named entries =>
    match entries.filter fun e => e.1 == name with
    | [] => some none
    | [(_, value)] => some (some value)
    | _ => none
  | .placed items => some items[place]?

/-- A field that has to be given. -/
def required (fields : Fields) (place : Nat) (name : String) (read : Json → Option α) : Option α := do
  read (← (← fields.find? place name))

/-- A field that may be null, or left out of a record given by names. -/
def optional (fields : Fields) (place : Nat) (name : String) (read : Json → Option α) :
    Option (Option α) := do
  match ← fields.find? place name with
  | some value => orNull? read value
  | none =>
    match fields with
    | .named _ => return none
    | .placed _ => none

/-- A field with a value of its own when it is left out. -/
def withDefault (fields : Fields) (place : Nat) (name : String) (default : α)
    (read : Json → Option α) : Option α := do
  match ← fields.find? place name with
  | some value => read value
  | none => return default

end Fields

end Json

end CodeSurvey
