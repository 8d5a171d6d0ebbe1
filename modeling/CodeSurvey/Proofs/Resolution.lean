import Mathlib.Order.Bounds.Basic
import CodeSurvey.Proofs.Model
import CodeSurvey.Reference.Resolver

namespace CodeSurvey

/-- In an ascending list the first item with a property is the least. -/
theorem find?_map_eq_some_iff_isLeast {α : Type} {key : α → String} {items : List α}
    (ascending : items.Pairwise fun item other => key item < key other) {p : α → Bool} {least : String} :
    (items.find? p).map key = some least ↔
      IsLeast {name | ∃ item ∈ items, p item ∧ key item = name} least := by
  have isLeast {item : α} (found : items.find? p = some item) :
      IsLeast {name | ∃ item ∈ items, p item ∧ key item = name} (key item) := by
    obtain ⟨holds, front, back, split, before⟩ := List.find?_eq_some_iff_append.mp found
    refine ⟨⟨item, List.mem_of_find?_eq_some found, holds, rfl⟩, ?_⟩
    rintro name ⟨other, member, otherHolds, rfl⟩
    rw [split, List.mem_append, List.mem_cons] at member
    rcases member with earlier | rfl | later
    · have fails := before other earlier
      rw [otherHolds] at fails
      contradiction
    · exact le_rfl
    · rw [split, List.pairwise_append, List.pairwise_cons] at ascending
      exact (ascending.2.1.1 other later).le
  constructor
  · intro found
    obtain ⟨item, first, rfl⟩ := Option.map_eq_some_iff.mp found
    exact isLeast first
  · intro least
    obtain ⟨item, member, holds, _⟩ := least.1
    obtain ⟨first, found⟩ := Option.isSome_iff_exists.mp (List.find?_isSome.mpr ⟨item, member, holds⟩)
    rw [found, Option.map_some, (isLeast found).unique least]

namespace Resolver

/-- The name of an entity within its package: what follows the package and the dots behind it, or the
qualified name itself when the package does not stand in front of it. -/
def IsLocalName (entity : Entity) (text : List Char) : Prop :=
  (∃ dots, entity.qualifiedName.toList = entity.package.toList ++ (List.replicate dots '.' ++ text) ∧
      text.head? ≠ some '.') ∨
    ¬entity.package.toList <+: entity.qualifiedName.toList ∧ text = entity.qualifiedName.toList

/-- A name by which an entity may be called without its package: its local name, or what follows one
of the dots of that. -/
def Bears (entity : Entity) (name : String) : Prop :=
  ∃ text, IsLocalName entity text ∧ (name.toList = text ∨ ∃ front, text = front ++ '.' :: name.toList)

theorem dropWhile_dots_eq_iff {rest text : List Char} :
    rest.dropWhile (· == '.') = text ↔
      ∃ dots, rest = List.replicate dots '.' ++ text ∧ text.head? ≠ some '.' := by
  constructor
  · rintro rfl
    have dots : rest.takeWhile (· == '.') = List.replicate (rest.takeWhile (· == '.')).length '.' :=
      List.eq_replicate_of_mem fun c member => beq_iff_eq.mp (List.all_eq_true.mp List.all_takeWhile c member)
    refine ⟨(rest.takeWhile (· == '.')).length, ?_, fun first => ?_⟩
    · rw [← dots, List.takeWhile_append_dropWhile]
    · have stops := List.head?_dropWhile_not (· == '.') rest
      rw [first] at stops
      exact absurd stops (by simp)
  · rintro ⟨dots, rfl, first⟩
    rw [List.dropWhile_append_of_pos fun c member => by simp [List.eq_of_mem_replicate member]]
    cases text with
    | nil => rfl
    | cons c text => exact List.dropWhile_cons_of_neg fun dot => first (by simp [beq_iff_eq.mp dot])

theorem isLocalName_iff {entity : Entity} {text : List Char} :
    IsLocalName entity text ↔ localName entity = text := by
  have begins : entity.package.toList.isPrefixOf entity.qualifiedName.toList ↔
      entity.package.toList <+: entity.qualifiedName.toList :=
    List.isPrefixOf_iff_prefix
  unfold IsLocalName localName
  by_cases inside : entity.package.toList <+: entity.qualifiedName.toList
  · rw [if_pos (begins.mpr inside)]
    obtain ⟨rest, split⟩ := inside
    rw [← split, List.drop_left, dropWhile_dots_eq_iff]
    simp
  · rw [if_neg (begins.not.mpr inside)]
    constructor
    · rintro (⟨dots, split, _⟩ | ⟨_, rfl⟩)
      · exact absurd ⟨_, split.symm⟩ inside
      · rfl
    · rintro rfl
      exact Or.inr ⟨inside, rfl⟩

theorem endings_cons (c : Char) (rest : List Char) :
    endings (c :: rest) = (c :: rest) :: if c = '.' then endings rest else (endings rest).tail := by
  rw [endings]
  by_cases dot : c = '.'
  · rw [if_pos dot, if_pos dot]
  · rw [if_neg dot, if_neg dot]
    cases endings rest <;> rfl

theorem endings_eq_cons (text : List Char) : endings text = text :: (endings text).tail := by
  cases text with
  | nil => rfl
  | cons c rest => rw [endings_cons, List.tail_cons]

theorem mem_tail_endings {text ending : List Char} :
    ending ∈ (endings text).tail ↔ ∃ front, text = front ++ '.' :: ending := by
  induction text with
  | nil => simp [endings]
  | cons c rest ih =>
    simp only [endings_cons, List.tail_cons, List.cons_eq_append_iff, List.cons.injEq]
    by_cases dot : c = '.'
    · rw [if_pos dot, endings_eq_cons, List.mem_cons, ih]
      constructor
      · rintro (rfl | ⟨front, rfl⟩)
        · exact ⟨[], Or.inl ⟨rfl, dot.symm, rfl⟩⟩
        · exact ⟨c :: front, Or.inr ⟨front, rfl, rfl⟩⟩
      · rintro ⟨_, ⟨_, _, rfl⟩ | ⟨front, _, rfl⟩⟩
        · exact Or.inl rfl
        · exact Or.inr ⟨front, rfl⟩
    · rw [if_neg dot, ih]
      constructor
      · rintro ⟨front, rfl⟩
        exact ⟨c :: front, Or.inr ⟨front, rfl, rfl⟩⟩
      · rintro ⟨_, ⟨_, same, _⟩ | ⟨front, _, rfl⟩⟩
        · exact absurd same.symm dot
        · exact ⟨front, rfl⟩

theorem bears_iff {entity : Entity} {name : String} :
    Bears entity name ↔ name.toList ∈ endings (localName entity) := by
  simp only [Bears, isLocalName_iff, exists_eq_left']
  rw [endings_eq_cons, List.mem_cons, mem_tail_endings]

instance (entity : Entity) (name : String) : Decidable (Bears entity name) :=
  decidable_of_iff _ bears_iff.symm

theorem getElem?_indexEntity (index : NameMap String) (entity : Entity) (name : String) :
    (indexEntity index entity)[name]? =
      index[name]?.or (if Bears entity name then some entity.qualifiedName else none) := by
  rw [indexEntity, NameMap.getElem?_foldl_insertIfNew]
  congr 1
  by_cases bears : Bears entity name
  · rw [if_pos bears, Option.map_eq_some_iff]
    have registered : ((endings (localName entity)).find? fun ending => name = String.ofList ending).isSome :=
      List.find?_isSome.mpr ⟨name.toList, bears_iff.mp bears, by simp⟩
    obtain ⟨ending, found⟩ := Option.isSome_iff_exists.mp registered
    exact ⟨ending, found, rfl⟩
  · rw [if_neg bears, Option.map_eq_none_iff, List.find?_eq_none]
    intro ending member same
    rw [bears_iff, of_decide_eq_true same, String.toList_ofList] at bears
    exact bears member

theorem getElem?_foldl_indexEntity (entities : List Entity) (index : NameMap String) (name : String) :
    (entities.foldl indexEntity index)[name]? =
      index[name]?.or ((entities.find? fun entity => Bears entity name).map (·.qualifiedName)) := by
  induction entities generalizing index with
  | nil => simp
  | cons entity rest ih =>
    rw [List.foldl_cons, ih, getElem?_indexEntity, Option.or_assoc, List.find?_cons]
    by_cases bears : Bears entity name <;> simp [bears]

theorem getElem?_foldl_insertIfNew_self (names : List String) (name : String) :
    (names.foldl (fun (index : NameMap String) name => index.insertIfNew name name) ∅)[name]? =
      if name ∈ names then some name else none := by
  rw [NameMap.getElem?_foldl_insertIfNew (fun name => name) (fun name => name),
    Std.ExtTreeMap.getElem?_empty, Option.none_or, Option.map_id']
  cases found : names.find? fun other => name = other with
  | none =>
    rw [List.find?_eq_none] at found
    rw [if_neg fun member => found name member (by simp)]
  | some other =>
    have same : name = other := by simpa using List.find?_some found
    rw [if_pos (same ▸ List.mem_of_find?_eq_some found), same]

/-- A qualified name leads to itself, any other name to the first entity that bears it. -/
theorem getElem?_indexModel (model : Model) (name : String) :
    (indexModel model)[name]? =
      if model.contains name then some name
      else (model.toList.find? fun entity => Bears entity name).map (·.qualifiedName) := by
  rw [indexModel, getElem?_foldl_indexEntity, getElem?_foldl_insertIfNew_self]
  simp only [Model.mem_names]
  by_cases known : model.contains name <;> simp [known]

theorem contains_known {model : Model} {name : String} :
    (ofModel model).known.contains name = model.contains name := by
  rw [Bool.eq_iff_iff, Std.ExtTreeSet.contains_iff_mem, ofModel, NameSet.mem_ofList, Model.mem_names]

/-- The entities that bear a name, by their qualified names. -/
def bearers (model : Model) (name : String) : Set String :=
  {target | ∃ entity ∈ model.toList, Bears entity name ∧ entity.qualifiedName = target}

section Stages

variable {model : Model} {written : String} {hint : Option String}

theorem resolve_of_nameless (nameless : TypeText.className written = "") :
    (ofModel model).resolve written hint = none := by
  rw [resolve, nameless]
  rfl

theorem resolve_of_named (named : TypeText.className written ≠ "") :
    (ofModel model).resolve written hint =
      ((ofModel model).exact (TypeText.className written) hint).or
        ((ofModel model).byLocalName (TypeText.className written)) := by
  rw [resolve, if_neg]
  rwa [String.isEmpty_iff]

theorem exact_of_guess {name guess : String} (hinted : hint = some guess) (known : model.contains guess) :
    (ofModel model).exact name hint = some guess := by
  rw [hinted, exact, contains_known, if_pos known]

theorem exact_of_unhinted {name : String} (unhinted : ∀ guess ∈ hint, ¬model.contains guess) :
    (ofModel model).exact name hint = if model.contains name then some name else none := by
  cases hint with
  | none => simp [exact, contains_known]
  | some guess => simp [exact, contains_known, unhinted guess rfl]

/-- The second stage finds the least entity that bears the name. -/
theorem byLocalName_eq_some_iff (keyed : model.Keyed) {name target : String}
    (unknown : ¬model.contains name) :
    (ofModel model).byLocalName name = some target ↔ IsLeast (bearers model name) target := by
  rw [byLocalName, ofModel, getElem?_indexModel, if_neg unknown,
    find?_map_eq_some_iff_isLeast keyed.toList_ascending]
  simp only [decide_eq_true_eq, bearers]

theorem byLocalName_eq_none_iff {name : String} (unknown : ¬model.contains name) :
    (ofModel model).byLocalName name = none ↔ ∀ entity ∈ model.toList, ¬Bears entity name := by
  rw [byLocalName, ofModel, getElem?_indexModel, if_neg unknown, Option.map_eq_none_iff,
    List.find?_eq_none]
  simp only [decide_eq_true_eq]

end Stages

/-- What a name stands for in a model, given a guess at it: the guess counts when it is a qualified
name, then the name itself when it is one, and only then the entities that bear the name locally. -/
inductive Meaning (model : Model) (name : String) (hint : Option String) : Option String → Prop
  | nameless (nameless : name = "") : Meaning model name hint none
  | guess {guess : String} (named : name ≠ "") (hinted : hint = some guess)
      (known : model.contains guess) : Meaning model name hint (some guess)
  | qualified (named : name ≠ "") (unhinted : ∀ guess ∈ hint, ¬model.contains guess)
      (known : model.contains name) : Meaning model name hint (some name)
  | bearer {target : String} (named : name ≠ "") (unhinted : ∀ guess ∈ hint, ¬model.contains guess)
      (unknown : ¬model.contains name) (least : IsLeast (bearers model name) target) :
      Meaning model name hint (some target)
  | nobody (named : name ≠ "") (unhinted : ∀ guess ∈ hint, ¬model.contains guess)
      (unknown : ¬model.contains name) (nobody : ∀ entity ∈ model.toList, ¬Bears entity name) :
      Meaning model name hint none

section Meaning

variable {model : Model} {written : String} {hint : Option String}

theorem resolve_meaning (keyed : model.Keyed) (written : String) (hint : Option String) :
    Meaning model (TypeText.className written) hint ((ofModel model).resolve written hint) := by
  by_cases named : TypeText.className written = ""
  · rw [resolve_of_nameless named]
    exact .nameless named
  rw [resolve_of_named named]
  by_cases hinted : ∃ guess ∈ hint, model.contains guess
  · obtain ⟨guess, isGuess, known⟩ := hinted
    rw [exact_of_guess isGuess known]
    exact .guess named isGuess known
  have unhinted : ∀ guess ∈ hint, ¬model.contains guess := fun guess isGuess known =>
    hinted ⟨guess, isGuess, known⟩
  rw [exact_of_unhinted unhinted]
  by_cases known : model.contains (TypeText.className written)
  · rw [if_pos known]
    exact .qualified named unhinted known
  rw [if_neg known, Option.none_or]
  cases found : (ofModel model).byLocalName (TypeText.className written) with
  | none => exact .nobody named unhinted known ((byLocalName_eq_none_iff known).mp found)
  | some target => exact .bearer named unhinted known ((byLocalName_eq_some_iff keyed known).mp found)

theorem Meaning.resolve_eq {result : Option String} (keyed : model.Keyed)
    (meaning : Meaning model (TypeText.className written) hint result) :
    (ofModel model).resolve written hint = result := by
  cases meaning with
  | nameless nameless => exact resolve_of_nameless nameless
  | guess named hinted known => rw [resolve_of_named named, exact_of_guess hinted known, Option.some_or]
  | qualified named unhinted known =>
    rw [resolve_of_named named, exact_of_unhinted unhinted, if_pos known, Option.some_or]
  | bearer named unhinted unknown least =>
    rw [resolve_of_named named, exact_of_unhinted unhinted, if_neg unknown, Option.none_or]
    exact (byLocalName_eq_some_iff keyed unknown).mpr least
  | nobody named unhinted unknown nobody =>
    rw [resolve_of_named named, exact_of_unhinted unhinted, if_neg unknown, Option.none_or]
    exact (byLocalName_eq_none_iff unknown).mpr nobody

theorem Meaning.contains {name target : String} (keyed : model.Keyed)
    (meaning : Meaning model name hint (some target)) : model.contains target := by
  cases meaning with
  | guess _ _ known => exact known
  | qualified _ _ known => exact known
  | bearer _ _ _ least =>
    obtain ⟨entity, member, _, rfl⟩ := least.1
    exact keyed.contains_of_mem member

/-- Resolution never leads out of the model. -/
theorem contains_of_resolve (keyed : model.Keyed) {target : String}
    (resolved : (ofModel model).resolve written hint = some target) : model.contains target := by
  have meaning := resolve_meaning keyed written hint
  rw [resolved] at meaning
  exact meaning.contains keyed

end Meaning

/-- The outcome of resolving a written name is its meaning and nothing else, and it is always the
name of an entity. -/
theorem resolve_eq_iff_meaning (entities : List Entity) (written : String) (hint : Option String) :
    (∀ result, (ofModel (Model.ofList entities)).resolve written hint = result ↔
        Meaning (Model.ofList entities) (TypeText.className written) hint result) ∧
      ∀ target, (ofModel (Model.ofList entities)).resolve written hint = some target →
        (Model.ofList entities).contains target := by
  have keyed := Model.ofList_keyed entities
  refine ⟨fun result => ⟨?_, fun meaning => meaning.resolve_eq keyed⟩, fun _ => contains_of_resolve keyed⟩
  rintro rfl
  exact resolve_meaning keyed written hint

/-- Two entities bear one local name, and a third refers to them, to itself, and to nobody. -/
def homonyms : List Entity :=
  [.declare .classType "q" "B" "", .declare .classType "p" "B" "",
    { Entity.declare .classType "p" "A" "" with
      extended := ["B<T>"]
      references := [.call (some "B") "run", .call (some "B") "run", .instantiation "q.B",
        .call (some "A") "run", .typeUse "C", .call none "run"] }]

theorem resolve_eq_iff_meaning_homonyms :
    (ofModel (.ofList homonyms)).resolve "B<T>" (some "r.B") = some "p.B" ∧
      Meaning (.ofList homonyms) "B" (some "r.B") (some "p.B") ∧
      (Model.ofList homonyms).contains "p.B" := by
  have resolved : (ofModel (.ofList homonyms)).resolve "B<T>" (some "r.B") = some "p.B" := by
    decide +kernel
  have name : TypeText.className "B<T>" = "B" := by decide +kernel
  obtain ⟨exact, known⟩ := resolve_eq_iff_meaning homonyms "B<T>" (some "r.B")
  exact ⟨resolved, name ▸ (exact _).mp resolved, known _ resolved⟩

end Resolver

end CodeSurvey
