import CodeSurvey.Entity.Json
import CodeSurvey.Proofs.NameMap

namespace CodeSurvey

namespace Json

/-- Whatever is written, reading gives it back. -/
def ReadsBack {α : Type} (read : Json → Option α) (write : α → Json) : Prop :=
  ∀ value, read (write value) = some value

theorem readsBack_str : ReadsBack toString? .str :=
  fun _ => rfl

theorem readsBack_bool : ReadsBack toBool? .bool :=
  fun _ => rfl

theorem readsBack_nat : ReadsBack toCount? nat := by
  intro count
  simp [toCount?, nat]

section Collections

variable {α : Type} {read : Json → Option α} {write : α → Json}

/-- Words read back when none of them stands for two values. -/
theorem readsBack_word {words : List (String × α)} {text : α → String}
    (listed : ∀ value, words.lookup (text value) = some value) :
    ReadsBack (toWord? words) fun value => .str (text value) :=
  listed

theorem ReadsBack.list (readsBack : ReadsBack read write) :
    ReadsBack (toList? read) fun items => Json.list items write := by
  intro items
  change (items.map write).mapM read = some items
  induction items with
  | nil => rfl
  | cons item rest ih =>
    rw [List.map_cons, List.mapM_cons, readsBack item, ih]
    rfl

theorem readsBack_strings : ReadsBack toStrings? strings :=
  readsBack_str.list

theorem ReadsBack.foldlM_insert (readsBack : ReadsBack read write) (entries : List (String × α))
    (start : NameMap α) :
    (entries.map fun e => (e.1, write e.2)).foldlM
        (fun found e => do return found.insert e.1 (← read e.2)) start =
      some (start.insertMany entries) := by
  rw [Std.ExtTreeMap.insertMany_list_eq_foldl]
  induction entries generalizing start with
  | nil => rfl
  | cons entry rest ih =>
    rw [List.map_cons, List.foldlM_cons, readsBack entry.2, List.foldl_cons, ← ih]
    rfl

/-- A map has each name once, so no entry replaces another when it is read. -/
theorem ReadsBack.map (readsBack : ReadsBack read write) :
    ReadsBack (toMap? read) fun entries => Json.map entries write := by
  intro entries
  exact (readsBack.foldlM_insert entries.toList ∅).trans (congrArg some entries.insertMany_toList)

theorem readsBack_set : ReadsBack toNameSet? set := by
  intro names
  rw [toNameSet?, set, readsBack_strings]
  exact congrArg some (NameSet.ofList_toList names)

end Collections

/-- The entries under one name. -/
def under (name : String) (entries : List (String × Json)) : List (String × Json) :=
  entries.filter fun e => e.1 == name

section Under

variable (name key : String)

@[simp] theorem under_nil : under name [] = [] :=
  rfl

@[simp] theorem under_cons (value : Json) (entries : List (String × Json)) :
    under name ((key, value) :: entries) =
      if key = name then (key, value) :: under name entries else under name entries := by
  simp [under, List.filter_cons]

@[simp] theorem under_append (entries others : List (String × Json)) :
    under name (entries ++ others) = under name entries ++ under name others :=
  List.filter_append ..

@[simp] theorem under_optionalEntry (text : Option String) :
    under name (optionalEntry key text) = if key = name then optionalEntry key text else [] := by
  cases text <;> simp [optionalEntry]

@[simp] theorem under_listEntry {α : Type} (items : List α) (write : α → Json) :
    under name (listEntry key items write) = if key = name then listEntry key items write else [] := by
  unfold listEntry
  split <;> simp

@[simp] theorem under_flag (flag : Bool) :
    under name (if flag then [(key, .bool true)] else []) =
      if key = name then if flag then [(key, .bool true)] else [] else [] := by
  cases flag <;> simp

end Under

namespace Fields

variable {α : Type} {read : Json → Option α} {write : α → Json} {entries : List (String × Json)}
  {place : Nat} {name : String}

theorem toFields?_bind (count : Nat) (entries : List (String × Json)) (read : Fields → Option α) :
    (toFields? count (.obj entries) >>= read) = read (named entries) :=
  rfl

theorem required_named (readsBack : ReadsBack read write) (value : α)
    (given : under name entries = [(name, write value)]) :
    (named entries).required place name read = some value := by
  unfold under at given
  simp [required, find?, given, readsBack value]

theorem optional_named (text : Option String) (given : under name entries = optionalEntry name text) :
    (named entries).optional place name toString? = some text := by
  unfold under at given
  cases text <;> simp [optional, find?, given, optionalEntry, orNull?, toString?]

theorem withDefault_given (readsBack : ReadsBack read write) (default value : α)
    (given : under name entries = [(name, write value)]) :
    (named entries).withDefault place name default read = some value := by
  unfold under at given
  simp [withDefault, find?, given, readsBack value]

theorem withDefault_listed (readsBack : ReadsBack read write) (items : List α)
    (given : under name entries = listEntry name items write) :
    (named entries).withDefault place name [] (toList? read) = some items := by
  cases items with
  | nil =>
    unfold under at given
    simp [withDefault, find?, given, listEntry]
  | cons item rest => exact withDefault_given readsBack.list [] _ given

/-- A flag that is down is left out. -/
theorem withDefault_flag (flag : Bool)
    (given : under name entries = if flag then [(name, .bool true)] else []) :
    (named entries).withDefault place name false toBool? = some flag := by
  unfold under at given
  cases flag <;> simp [withDefault, find?, given, toBool?]

end Fields

end Json

end CodeSurvey
