import CodeSurvey.Name

namespace CodeSurvey

inductive Json where
  | null
  | bool (value : Bool)
  | int (value : Int)
  | real (value : Float)
  | str (value : String)
  | arr (items : List Json)
  | obj (entries : List (String × Json))
  deriving Inhabited

namespace Json

/-- The last value given for a key. -/
def entry? (entries : List (String × Json)) (key : String) : Option Json :=
  entries.foldl (fun found e => if e.1 == key then some e.2 else found) none

/-- The value under a key of an object. -/
def get? (value : Json) (key : String) : Option Json :=
  match value with
  | .obj entries => entry? entries key
  | _ => none

def nat (n : Nat) : Json := .int n

def strings (items : List String) : Json :=
  .arr (items.map .str)

def list (items : List α) (write : α → Json) : Json :=
  .arr (items.map write)

def map (entries : NameMap α) (write : α → Json) : Json :=
  .obj (entries.toList.map fun e => (e.1, write e.2))

def set (items : NameSet) : Json :=
  strings items.toList

/-- One value for each key: the last one given, at the place of the first. -/
def lastOfEach (entries : List (String × Json)) : List (String × Json) :=
  entries.foldl (fun kept e =>
    if kept.any (·.1 == e.1) then kept.map fun k => if k.1 == e.1 then e else k
    else kept ++ [e]) []

mutual

/-- The value with no key repeated in any object. -/
def distinct : Json → Json
  | .arr items => .arr (distinctItems items)
  | .obj entries => .obj (lastOfEach (distinctEntries entries))
  | other => other

def distinctItems : List Json → List Json
  | [] => []
  | item :: rest => distinct item :: distinctItems rest

def distinctEntries : List (String × Json) → List (String × Json)
  | [] => []
  | (key, value) :: rest => (key, distinct value) :: distinctEntries rest

end

/-- The entries of an object without those under the given keys. -/
def without (value : Json) (keys : List String) : Json :=
  match value with
  | .obj entries => .obj (entries.filter fun e => !keys.contains e.1)
  | other => other

/-- The entries of an object under the given keys only. -/
def only (value : Json) (keys : List String) : Json :=
  match value with
  | .obj entries => .obj (entries.filter fun e => keys.contains e.1)
  | other => other

end Json

end CodeSurvey
