import CodeSurvey.Toml.Scalar

namespace CodeSurvey

namespace Toml

/-- How a table came about: by a header of its own, as part of a longer header, or by a dotted key. -/
inductive Origin where
  | header
  | implied
  | dotted
  deriving DecidableEq, Inhabited, Repr

/-- What stands under a key. `tables` holds the tables of an array of tables, the latest first. -/
inductive Item where
  | value (value : Json)
  | table (origin : Origin) (entries : List (String × Item))
  | tables (items : List (List (String × Item)))
  deriving Inhabited

abbrev Entries : Type := List (String × Item)

/-- Puts an item under a key, in place of one that is there. -/
def Entries.put (entries : Entries) (key : String) (item : Item) : Entries :=
  if entries.any (·.1 == key) then entries.map fun e => if e.1 == key then (key, item) else e
  else entries ++ [(key, item)]

mutual

def Item.toJson : Item → Json
  | .value value => value
  | .table _ entries => .obj (entriesJson entries)
  | .tables items => .arr (tablesJson items).reverse

def entriesJson : List (String × Item) → List (String × Json)
  | [] => []
  | (key, item) :: rest => (key, item.toJson) :: entriesJson rest

def tablesJson : List (List (String × Item)) → List Json
  | [] => []
  | entries :: rest => .obj (entriesJson entries) :: tablesJson rest

end

/-- Gives a value to a dotted key. The parts before the last name tables; the innermost has to be one
that only dotted keys have made. -/
def assign (value : Item) : List String → Entries → Option Entries
  | [], _ => none
  | [key], entries => if (entries.lookup key).isSome then none else some (entries.put key value)
  | part :: key :: more, entries =>
    match entries.lookup part with
    | none => do return entries.put part (.table .dotted (← assign value (key :: more) []))
    | some (.table .dotted inner) => do
      return entries.put part (.table .dotted (← assign value (key :: more) inner))
    | some (.table .implied inner) =>
      if more.isEmpty then none
      else do return entries.put part (.table .implied (← assign value (key :: more) inner))
    | some (.tables (last :: before)) =>
      if more.isEmpty then none
      else do return entries.put part (.tables ((← assign value (key :: more) last) :: before))
    | some _ => none

/-- Goes down a path of tables, making those that are missing, and changes the last one. -/
def within (change : Entries → Option Entries) : List String → Entries → Option Entries
  | [], entries => change entries
  | part :: rest, entries =>
    match entries.lookup part with
    | none => do return entries.put part (.table .implied (← within change rest []))
    | some (.table origin inner) => do
      return entries.put part (.table origin (← within change rest inner))
    | some (.tables (last :: before)) => do
      return entries.put part (.tables ((← within change rest last) :: before))
    | some _ => none

/-- Opens a table by its header. Only one that is implied so far may be there already. -/
def openTable (key : String) (entries : Entries) : Option Entries :=
  match entries.lookup key with
  | none => some (entries.put key (.table .header []))
  | some (.table .implied inner) => some (entries.put key (.table .header inner))
  | some _ => none

/-- Opens one more table of an array of tables. -/
def openElement (key : String) (entries : Entries) : Option Entries :=
  match entries.lookup key with
  | none => some (entries.put key (.tables [[]]))
  | some (.tables items) => some (entries.put key (.tables ([] :: items)))
  | some _ => none

/-- Drops a comment. -/
def skipComment : List Char → List Char
  | '#' :: rest => rest.dropWhile isPrintable
  | cs => cs

/-- Drops blanks, comments and line ends. -/
def skipLines : Nat → List Char → List Char
  | 0, cs => cs
  | fuel + 1, cs =>
    match dropNewline? (skipComment (skipSpace cs)) with
    | some rest => skipLines fuel rest
    | none => skipSpace cs

mutual

/-- A value; `depth` levels may still be opened. -/
def readValue : Nat → Nat → List Char → Option (Json × List Char)
  | 0, _, _ => none
  | fuel + 1, depth, cs =>
    match cs with
    | '"' :: _ | '\'' :: _ => (readString cs).map fun (text, rest) => (.str text, rest)
    | '[' :: rest =>
      match depth with
      | 0 => none
      | depth + 1 => (readItems fuel depth [] rest).map fun (items, rest) => (.arr items.reverse, rest)
    | '{' :: rest =>
      match depth with
      | 0 => none
      | depth + 1 =>
        match skipSpace rest with
        | '}' :: rest => some (.obj [], rest)
        | rest => readInline fuel depth [] rest
    | _ => readPlain cs

/-- The rest of an array; a comma may stand after its last item. -/
def readItems : Nat → Nat → List Json → List Char → Option (List Json × List Char)
  | 0, _, _, _ => none
  | fuel + 1, depth, read, cs =>
    match skipLines cs.length cs with
    | ']' :: rest => some (read, rest)
    | cs =>
      match readValue fuel depth cs with
      | none => none
      | some (item, rest) =>
        match skipLines rest.length rest with
        | ',' :: rest => readItems fuel depth (item :: read) rest
        | ']' :: rest => some (item :: read, rest)
        | _ => none

/-- The rest of an inline table, of which at least one entry is left. -/
def readInline : Nat → Nat → Entries → List Char → Option (Json × List Char)
  | 0, _, _, _ => none
  | fuel + 1, depth, entries, cs =>
    match readKey cs with
    | some (key, '=' :: rest) =>
      match readValue fuel depth (skipSpace rest) with
      | none => none
      | some (value, rest) =>
        match assign (.value value) key entries with
        | none => none
        | some entries =>
          match skipSpace rest with
          | ',' :: rest => readInline fuel depth entries rest
          | '}' :: rest => some (.obj (entriesJson entries), rest)
          | _ => none
    | _ => none

end

/-- What follows the line that ends here. -/
def endLine? (cs : List Char) : Option (List Char) :=
  match skipComment (skipSpace cs) with
  | [] => some []
  | rest => dropNewline? rest

/-- The header of a table and what follows it on the line: the path of the tables around it, its own
key, and whether it adds to an array of tables. -/
def readHeader (cs : List Char) : Option (List String × String × Bool × List Char) := do
  match cs with
  | '[' :: '[' :: rest =>
    match ← readKey rest with
    | (key, ']' :: ']' :: rest) => return (key.dropLast, ← key.getLast?, true, rest)
    | _ => none
  | '[' :: rest =>
    match ← readKey rest with
    | (key, ']' :: rest) => return (key.dropLast, ← key.getLast?, false, rest)
    | _ => none
  | _ => none

/-- All lines of a document. `path` leads to the table that keys belong to. -/
def readLinesOf : Nat → List String → Entries → List Char → Option Entries
  | 0, _, _, _ => none
  | fuel + 1, path, entries, cs =>
    match skipLines cs.length cs with
    | [] => some entries
    | '[' :: rest =>
      match readHeader ('[' :: rest) with
      | none => none
      | some (parents, key, isElement, rest) =>
        let change := if isElement then openElement key else openTable key
        match within change parents entries, endLine? rest with
        | some entries, some rest => readLinesOf fuel (parents ++ [key]) entries rest
        | _, _ => none
    | '#' :: rest =>
      if (rest.dropWhile isPrintable).isEmpty then some entries else none
    | cs =>
      match readKey cs with
      | some (key, '=' :: rest) =>
        match readValue (rest.length + 1) (depthLimit - 1) (skipSpace rest) with
        | none => none
        | some (value, rest) =>
          match within (assign (.value value) key) path entries, endLine? rest with
          | some entries, some rest => readLinesOf fuel path entries rest
          | _, _ => none
      | _ => none

/-- The value of a document, none when it breaks a rule. A byte order mark in front means nothing. -/
def parse? (text : String) : Option Json :=
  let cs := match text.toList with
    | '\uFEFF' :: rest => rest
    | cs => cs
  (readLinesOf (cs.length + 1) [] [] cs).map fun entries => .obj (entriesJson entries)

end Toml

end CodeSurvey
