import Mathlib.Data.List.Perm.Basic
import CodeSurvey.Project.Ingestion
import CodeSurvey.Proofs.Model

namespace CodeSurvey

theorem Model.size_insert (model : Model) (entity : Entity) :
    (model.insert entity).size =
      if model.contains entity.qualifiedName then model.size else model.size + 1 := by
  simp only [contains, Std.ExtTreeMap.contains_iff_mem]
  exact Std.ExtTreeMap.size_insertIfNew

namespace FileOutcome

def isParsed : FileOutcome → Bool
  | parsed _ => true
  | skipped _ => false

def entities : FileOutcome → List Entity
  | parsed entities => entities
  | skipped _ => []

def skipped? : FileOutcome → Option SkippedFile
  | parsed _ => none
  | skipped file => some file

/-- Files that are read at once give the same outcomes as files read one after the other. -/
theorem ofFiles_eq_map (frontend : Frontend) (config : ParallelConfig) (files : List SourceFile) :
    ofFiles frontend config files = files.map (ofFile frontend) := by
  unfold ofFiles
  split
  · exact List.map_map
  · rfl

end FileOutcome

/-- What becomes of a file that a front end reads and takes apart. -/
inductive Frontend.Makes (frontend : Frontend) (file : SourceFile) : FileOutcome → Prop
  | unsupported {ext : String} : Language.ofPath file.path = .error ext →
      Makes frontend file (.skipped ⟨file.path, "Unsupported language for extension: " ++ ext⟩)
  | unreadable {language : Language} {cause : FileError} : Language.ofPath file.path = .ok language →
      frontend.readText file = .error cause → Makes frontend file (.skipped ⟨file.path, cause.message⟩)
  | unparsed {language : Language} {source message : String} : Language.ofPath file.path = .ok language →
      frontend.readText file = .ok source → frontend.extract language file.path source = .error message →
      Makes frontend file (.skipped ⟨file.path, "Failed to parse " ++ file.path ++ ": " ++ message⟩)
  | undeclared {language : Language} {source : String} : Language.ofPath file.path = .ok language →
      frontend.readText file = .ok source → frontend.extract language file.path source = .ok ⟨[], true⟩ →
      Makes frontend file (.skipped ⟨file.path, "syntax errors and no declarations"⟩)
  | parsed {language : Language} {source : String} {found : FileExtraction} :
      Language.ofPath file.path = .ok language → frontend.readText file = .ok source →
      frontend.extract language file.path source = .ok found → (found.hasErrors → found.entities ≠ []) →
      Makes frontend file (.parsed found.entities)

theorem FileOutcome.makes_ofFile (frontend : Frontend) (file : SourceFile) :
    frontend.Makes file (ofFile frontend file) := by
  unfold ofFile
  split
  · next unknown => exact .unsupported unknown
  · next known =>
    split
    · next failed => exact .unreadable known failed
    · next read =>
      split
      · next failed => exact .unparsed known read failed
      · next found extracted =>
        split
        · next nothing =>
          obtain ⟨entities, hasErrors⟩ := found
          simp only [Bool.and_eq_true, List.isEmpty_iff] at nothing
          obtain ⟨rfl, rfl⟩ := nothing
          exact .undeclared known read extracted
        · next kept =>
          refine .parsed known read extracted fun hasErrors none => kept ?_
          rw [hasErrors, none]
          rfl

namespace Ingestion

/-- What has been gathered from outcomes, in the order in which they came. -/
structure Gathers (found : Ingestion) (outcomes : List FileOutcome) : Prop where
  model : found.model = .ofList (outcomes.flatMap FileOutcome.entities)
  entities : found.model.size + found.duplicateEntities = (outcomes.flatMap FileOutcome.entities).length
  skipped : found.skipped = outcomes.filterMap FileOutcome.skipped?
  filesParsed : found.filesParsed = outcomes.countP FileOutcome.isParsed

section Gather

variable {found : Ingestion}

/-- An entity makes the model grow by one, or is counted. -/
theorem addEntity_spec (found : Ingestion) (entity : Entity) :
    (found.addEntity entity).model = found.model.insert entity ∧
      (found.addEntity entity).model.size + (found.addEntity entity).duplicateEntities =
        found.model.size + found.duplicateEntities + 1 ∧
      (found.addEntity entity).skipped = found.skipped ∧
      (found.addEntity entity).filesParsed = found.filesParsed := by
  have size := found.model.size_insert entity
  unfold addEntity
  split
  · next known => exact ⟨(Model.insert_of_contains known).symm, rfl, rfl, rfl⟩
  · next fresh =>
    rw [if_neg fresh] at size
    refine ⟨rfl, ?_, rfl, rfl⟩
    dsimp only
    omega

theorem foldl_addEntity_spec (entities : List Entity) (found : Ingestion) :
    let after := entities.foldl addEntity found
    after.model = entities.foldl Model.insert found.model ∧
      after.model.size + after.duplicateEntities =
        found.model.size + found.duplicateEntities + entities.length ∧
      after.skipped = found.skipped ∧ after.filesParsed = found.filesParsed := by
  induction entities generalizing found with
  | nil => exact ⟨rfl, rfl, rfl, rfl⟩
  | cons entity rest ih =>
    obtain ⟨model, entities, skipped, filesParsed⟩ := found.addEntity_spec entity
    obtain ⟨model', entities', skipped', filesParsed'⟩ := ih (found.addEntity entity)
    refine ⟨?_, ?_, skipped'.trans skipped, filesParsed'.trans filesParsed⟩
    · rw [List.foldl_cons, model', model, List.foldl_cons]
    · rw [List.foldl_cons, entities', entities, List.length_cons]
      omega

theorem Gathers.add {done : List FileOutcome} (gathers : found.Gathers done) (outcome : FileOutcome) :
    (found.add outcome).Gathers (done ++ [outcome]) := by
  cases outcome with
  | parsed entities =>
    obtain ⟨model, sizes, skipped, filesParsed⟩ :=
      foldl_addEntity_spec entities { found with filesParsed := found.filesParsed + 1 }
    constructor
    · rw [Ingestion.add, model, gathers.model, Model.ofList, Model.ofList, ← List.foldl_append,
        List.flatMap_append, List.flatMap_singleton]
      rfl
    · rw [Ingestion.add, sizes, gathers.entities, List.flatMap_append, List.flatMap_singleton,
        List.length_append]
      rfl
    · rw [Ingestion.add, skipped, List.filterMap_append]
      exact gathers.skipped.trans (List.append_nil _).symm
    · rw [Ingestion.add, filesParsed, List.countP_append, ← gathers.filesParsed]
      rfl
  | skipped file =>
    constructor
    · rw [List.flatMap_append]
      exact gathers.model.trans (congrArg Model.ofList (List.append_nil _).symm)
    · rw [List.flatMap_append]
      exact gathers.entities.trans (congrArg List.length (List.append_nil _).symm)
    · rw [List.filterMap_append]
      exact congrArg (· ++ [file]) gathers.skipped
    · rw [List.countP_append]
      exact gathers.filesParsed

theorem gathers_foldl_add (outcomes : List FileOutcome) : (outcomes.foldl add {}).Gathers outcomes := by
  have run : ∀ (rest done : List FileOutcome) (found : Ingestion), found.Gathers done →
      (rest.foldl add found).Gathers (done ++ rest) := by
    intro rest
    induction rest with
    | nil =>
      intro done found gathers
      rwa [List.append_nil]
    | cons outcome rest ih =>
      intro done found gathers
      rw [List.foldl_cons, List.append_cons]
      exact ih _ _ (gathers.add outcome)
  exact run outcomes [] {} ⟨rfl, rfl, rfl, rfl⟩

end Gather

end Ingestion

namespace SourceFile

/-- Whether a file comes no later than another in the order of their paths, which are compared name by name. -/
def precedes (file other : SourceFile) : Bool :=
  (compare file.names other.names).isLE

/-- The entities that are extracted from a file, none when it is skipped. -/
def entities (frontend : Frontend) (file : SourceFile) : List Entity :=
  (FileOutcome.ofFile frontend file).entities

def Declares (frontend : Frontend) (file : SourceFile) (name : String) : Prop :=
  ∃ entity ∈ file.entities frontend, entity.qualifiedName = name

variable {frontend : Frontend}

theorem firstNamed_eq_none_iff {file : SourceFile} {name : String} :
    Model.firstNamed (file.entities frontend) name = none ↔ ¬file.Declares frontend name := by
  rw [Model.firstNamed, List.find?_eq_none, Declares]
  constructor
  · rintro none ⟨entity, member, rfl⟩
    exact none entity member (decide_eq_true rfl)
  · intro undeclared entity member same
    exact undeclared ⟨entity, member, (of_decide_eq_true same).symm⟩

theorem declares_of_firstNamed {file : SourceFile} {name : String} {entity : Entity}
    (first : Model.firstNamed (file.entities frontend) name = some entity) : file.Declares frontend name :=
  ⟨entity, List.mem_of_find?_eq_some first, Model.qualifiedName_of_firstNamed first⟩

section Sorted

variable {files walk : List SourceFile}

theorem sorted_precedes (files : List SourceFile) :
    (files.mergeSort precedes).Pairwise fun file other => file.precedes other := by
  refine List.pairwise_mergeSort (fun _ _ _ => Std.TransCmp.isLE_trans) (fun file other => ?_) files
  have swapped : compare other.names file.names = (compare file.names other.names).swap :=
    Std.OrientedCmp.eq_swap
  rw [precedes, precedes, swapped]
  cases compare file.names other.names <;> rfl

/-- Files at different places are told apart by their names. -/
theorem eq_of_precedes (distinct : (files.map (·.names)).Nodup) {file other : SourceFile}
    (inside : file ∈ files) (inside' : other ∈ files) (forth : file.precedes other)
    (back : other.precedes file) : file = other :=
  List.inj_on_of_nodup_map distinct inside inside'
    (Std.LawfulEqCmp.eq_of_compare (Std.OrientedCmp.isLE_antisymm forth back))

/-- The order in which files are found makes no difference once they are sorted. -/
theorem mergeSort_eq_of_perm (distinct : (files.map (·.names)).Nodup) (found : walk.Perm files) :
    walk.mergeSort precedes = files.mergeSort precedes := by
  have perm := (List.mergeSort_perm walk precedes).trans found
  refine List.Perm.eq_of_pairwise (fun file other inside inside' => ?_) (sorted_precedes walk)
    (sorted_precedes files) (perm.trans (List.mergeSort_perm files precedes).symm)
  exact eq_of_precedes distinct (perm.mem_iff.mp inside) (List.mem_mergeSort.mp inside')

/-- In the order of the files, the first entity of a name comes from the first file that declares it. Two files
that are both the first precede each other, so they are one. -/
theorem firstNamed_sorted (distinct : (files.map (·.names)).Nodup) (name : String) (entity : Entity) :
    Model.firstNamed ((files.mergeSort precedes).flatMap (entities frontend)) name = some entity ↔
      ∃ file ∈ files, Model.firstNamed (file.entities frontend) name = some entity ∧
        ∀ other ∈ files, other.Declares frontend name → file.precedes other := by
  have sorted := sorted_precedes files
  have first {entity : Entity}
      (found : Model.firstNamed ((files.mergeSort precedes).flatMap (entities frontend)) name = some entity) :
      ∃ file ∈ files, Model.firstNamed (file.entities frontend) name = some entity ∧
        ∀ other ∈ files, other.Declares frontend name → file.precedes other := by
    rw [Model.firstNamed, List.find?_flatMap, List.findSome?_eq_some_iff] at found
    obtain ⟨front, file, back, split, here, before⟩ := found
    have inside : file ∈ files.mergeSort precedes := split ▸ List.mem_append_right _ List.mem_cons_self
    refine ⟨file, List.mem_mergeSort.mp inside, here, fun other member declares => ?_⟩
    have place : other ∈ files.mergeSort precedes := List.mem_mergeSort.mpr member
    rw [split, List.pairwise_append, List.pairwise_cons] at sorted
    rw [split, List.mem_append, List.mem_cons] at place
    rcases place with earlier | rfl | later
    · exact absurd declares (firstNamed_eq_none_iff.mp (before other earlier))
    · exact Std.ReflCmp.isLE_rfl
    · exact sorted.2.1.1 other later
  refine ⟨first, ?_⟩
  rintro ⟨file, member, here, least⟩
  have present : ∃ entity,
      Model.firstNamed ((files.mergeSort precedes).flatMap (entities frontend)) name = some entity := by
    obtain ⟨declared, inside, rfl⟩ := declares_of_firstNamed here
    have listed : declared ∈ (files.mergeSort precedes).flatMap (entities frontend) :=
      List.mem_flatMap.mpr ⟨file, List.mem_mergeSort.mpr member, inside⟩
    exact Option.isSome_iff_exists.mp (List.find?_isSome.mpr ⟨declared, listed, decide_eq_true rfl⟩)
  obtain ⟨other, found⟩ := present
  obtain ⟨file', member', here', least'⟩ := first found
  have same : file = file' := eq_of_precedes distinct member member'
    (least file' member' (declares_of_firstNamed here')) (least' file member (declares_of_firstNamed here))
  rw [found, ← here', ← same, here]

end Sorted

/-- No two files of a directory are at one place. -/
theorem filesBelow_distinct (files : FileSystem) (top : Location) :
    ((files.filesBelow top).map (·.1)).Nodup := by
  refine List.pairwise_map.mpr (List.pairwise_filterMap.mpr ?_)
  refine files.tree.distinct_keys_toList.imp fun {entry other} different => ?_
  have below {location : Location} {bytes : ByteArray} {modified : Nat} {found : Location × ByteArray × Nat}
      (kept : (if top.isPrefixOf location && top.length < location.length then
        some (location.drop top.length, bytes, modified) else none) = some found) : location = top ++ found.1 := by
    obtain ⟨inside, same⟩ := Option.ite_none_right_eq_some.mp kept
    cases same
    obtain ⟨rest, rfl⟩ := List.isPrefixOf_iff_prefix.mp (Bool.and_eq_true_iff.mp inside).1
    rw [List.drop_left]
  intro found kept found' kept' same
  obtain ⟨location, node⟩ := entry
  obtain ⟨location', node'⟩ := other
  cases node with
  | directory => cases kept
  | file =>
    cases node' with
    | directory => cases kept'
    | file =>
      rw [below kept, below kept', same] at different
      exact different Std.ReflCmp.compare_self

theorem collect_distinct (files : FileSystem) (path : String) (depth : Option Nat) :
    ((collect files path depth).map (·.names)).Nodup := by
  unfold collect
  split
  · next root _ =>
    refine List.pairwise_map.mpr (List.pairwise_filterMap.mpr ?_)
    refine (List.pairwise_map.mp (filesBelow_distinct files root)).imp fun {entry other} different => ?_
    intro file kept file' kept'
    cases (Option.ite_none_right_eq_some.mp kept).2
    cases (Option.ite_none_right_eq_some.mp kept').2
    exact different
  · split
    · exact List.nodup_singleton _
    · exact List.nodup_nil
  · exact List.nodup_nil

end SourceFile

namespace SkippedFile

theorem precedes_iff {file other : SkippedFile} :
    file.precedes other ↔ file.path < other.path ∨ file.path = other.path ∧ file.reason ≤ other.reason := by
  rw [precedes, Ordering.isLE_then_iff_or, compare_lt_iff_lt, Std.compare_eq_iff_eq, Ordering.isLE_iff_ne_gt,
    ← Ne, compare_le_iff_le]

theorem sorted_precedes (files : List SkippedFile) :
    (files.mergeSort precedes).Pairwise fun file other => file.precedes other := by
  refine List.pairwise_mergeSort (fun first second third forth further => ?_) (fun file other => ?_) files
  · rw [precedes_iff] at forth further ⊢
    rcases forth with before | ⟨samePath, reason⟩
    · rcases further with before' | ⟨samePath', _⟩
      · exact Or.inl (before.trans before')
      · exact Or.inl (samePath' ▸ before)
    · rcases further with before' | ⟨samePath', reason'⟩
      · exact Or.inl (samePath ▸ before')
      · exact Or.inr ⟨samePath.trans samePath', reason.trans reason'⟩
  · rw [Bool.or_eq_true, precedes_iff, precedes_iff]
    rcases lt_trichotomy file.path other.path with before | same | after
    · exact Or.inl (Or.inl before)
    · exact (le_total file.reason other.reason).imp (fun le => Or.inr ⟨same, le⟩)
        fun le => Or.inr ⟨same.symm, le⟩
    · exact Or.inr (Or.inl after)

end SkippedFile

namespace Ingestion

/-- What an ingestion says of the files behind it. -/
structure AccountsFor (found : Ingestion) (frontend : Frontend) (files : List SourceFile) : Prop where
  outcomes : ∀ file ∈ files, frontend.Makes file (FileOutcome.ofFile frontend file)
  filesParsed : found.filesParsed = files.countP fun file => (FileOutcome.ofFile frontend file).isParsed
  skipped : found.skipped.Perm (files.filterMap fun file => (FileOutcome.ofFile frontend file).skipped?)
  allFiles : found.filesParsed + found.skipped.length = files.length
  allEntities : found.model.size + found.duplicateEntities = (files.flatMap (SourceFile.entities frontend)).length
  sorted : found.skipped.Pairwise fun file other =>
    file.path < other.path ∨ file.path = other.path ∧ file.reason ≤ other.reason
  /-- a name leads to its first entity in the first file that declares it -/
  firstKept : ∀ name entity, found.model.get? name = some entity ↔
    ∃ file ∈ files, Model.firstNamed (file.entities frontend) name = some entity ∧
      ∀ other ∈ files, other.Declares frontend name → file.precedes other

theorem countP_add_length_filterMap (outcomes : List FileOutcome) :
    outcomes.countP FileOutcome.isParsed + (outcomes.filterMap FileOutcome.skipped?).length = outcomes.length := by
  induction outcomes with
  | nil => rfl
  | cons outcome rest ih =>
    cases outcome with
    | parsed =>
      rw [List.countP_cons_of_pos rfl, List.filterMap_cons_none rfl, List.length_cons]
      omega
    | skipped file =>
      have listed : (FileOutcome.skipped file).skipped? = some file := rfl
      rw [List.countP_cons_of_neg Bool.false_ne_true, List.filterMap_cons_some listed, List.length_cons,
        List.length_cons]
      omega

section Files

variable {frontend : Frontend} {files walk : List SourceFile}

theorem ofFiles_accountsFor (config : ParallelConfig) (distinct : (files.map (·.names)).Nodup) :
    (ofFiles frontend config files).AccountsFor frontend files := by
  have perm : (files.mergeSort SourceFile.precedes).Perm files := List.mergeSort_perm _ _
  let outcomes := (files.mergeSort SourceFile.precedes).map (FileOutcome.ofFile frontend)
  have gathers := gathers_foldl_add outcomes
  have whole : ofFiles frontend config files =
      { outcomes.foldl add {} with
        skipped := (outcomes.foldl add {}).skipped.mergeSort SkippedFile.precedes } := by
    rw [ofFiles, FileOutcome.ofFiles_eq_map]
    rfl
  have entities : outcomes.flatMap FileOutcome.entities =
      (files.mergeSort SourceFile.precedes).flatMap (SourceFile.entities frontend) := List.flatMap_map _ _ _
  have skipped : (ofFiles frontend config files).skipped.Perm (outcomes.filterMap FileOutcome.skipped?) := by
    rw [whole, ← gathers.skipped]
    exact List.mergeSort_perm _ _
  rw [whole] at skipped ⊢
  constructor
  case outcomes => exact fun file _ => FileOutcome.makes_ofFile frontend file
  case filesParsed =>
    rw [gathers.filesParsed, List.countP_map]
    exact perm.countP_eq _
  case skipped =>
    rw [List.filterMap_map] at skipped
    exact skipped.trans (perm.filterMap _)
  case allFiles =>
    rw [skipped.length_eq, gathers.filesParsed, countP_add_length_filterMap, List.length_map, perm.length_eq]
  case allEntities =>
    rw [gathers.entities, entities]
    exact (perm.flatMap_right _).length_eq
  case sorted => exact (SkippedFile.sorted_precedes _).imp SkippedFile.precedes_iff.mp
  case firstKept =>
    intro name entity
    rw [gathers.model, entities, Model.get?_ofList]
    exact SourceFile.firstNamed_sorted distinct name entity

/-- Nothing depends on how many files are read at once. -/
theorem ofFiles_parallel (config other : ParallelConfig) :
    ofFiles frontend config files = ofFiles frontend other files := by
  rw [ofFiles, ofFiles, FileOutcome.ofFiles_eq_map, FileOutcome.ofFiles_eq_map]

theorem ofFiles_eq_of_perm (config other : ParallelConfig) (distinct : (files.map (·.names)).Nodup)
    (found : walk.Perm files) : ofFiles frontend other walk = ofFiles frontend config files := by
  have sorted := SourceFile.mergeSort_eq_of_perm distinct found
  unfold SourceFile.precedes at sorted
  rw [ofFiles_parallel other config, ofFiles, ofFiles, sorted]

end Files

/-- The files of a project are all accounted for, whatever the front end makes of them, in whatever order they are
found and however many of them are read at once. -/
theorem ingestion_loses_nothing (frontend : Frontend) (files : List SourceFile)
    (distinct : (files.map (·.names)).Nodup) :
    ∃ found : Ingestion, found.AccountsFor frontend files ∧
      (∀ config walk, walk.Perm files → ofFiles frontend config walk = found) ∧
      ∀ config system path, system.isDirectory path → (SourceFile.collect system path none).Perm files →
        ofProject config system path frontend = .ok found := by
  refine ⟨ofFiles frontend {} files, ofFiles_accountsFor {} distinct, fun config walk => ?_, ?_⟩
  · exact ofFiles_eq_of_perm {} config distinct
  · intro config system path directory collected
    rw [ofProject, if_pos directory, ofFiles_eq_of_perm {} config distinct collected]

/-- Reads a text up to a sign that no text may hold, and is kept from reading one file. -/
def recovering : Frontend where
  readText file :=
    if file.names = ["Locked.java"] then .error (.other "Permission denied (os error 13)")
    else Frontend.byGrammar.readText file
  extract language path source :=
    if source.isEmpty then .error "Failed to parse file"
    else
      let proper := String.ofList (source.toList.takeWhile (· != '%'))
      (Frontend.byGrammar.extract language path proper).map fun found =>
        { found with hasErrors := found.hasErrors || proper != source }

/-- Two files declare one name, the first of them in the directory `a`, and the second goes on with an error. Of the
others one is all error, one cannot be read and one cannot be taken apart. -/
def copies : FileSystem :=
  [(["p", "a-b", "A.java"], "class A \x7b\x7d %"), (["p", "a", "A.java"], "class A \x7b class B \x7b\x7d \x7d"),
    (["p", "Junk.java"], "%"), (["p", "Locked.java"], "class C \x7b\x7d"), (["p", "Empty.java"], "")].foldl
      (fun files file => files.setNode file.1 (.file file.2.toUTF8 0))
      (({} : FileSystem).setNode ["p"] .directory)

theorem ingestion_loses_nothing_copies :
    let files := SourceFile.collect copies "/p" none
    (files.map (·.names)).Nodup ∧ ∃ found, ofProject {} copies "/p" recovering = .ok found ∧
      ofFiles recovering { enabled := false } files.reverse = found ∧ found.filesParsed = 2 ∧
      found.skipped.length = 3 ∧ found.model.size + found.duplicateEntities = 3 ∧
      ∃ entity, found.model.get? "A" = some entity ∧ entity.filePath = "/p/a/A.java" := by
  intro files
  have distinct : (files.map (·.names)).Nodup := SourceFile.collect_distinct copies "/p" none
  obtain ⟨found, accounts, anyOrder, project⟩ := ingestion_loses_nothing recovering files distinct
  have counts : files.countP (fun file => (FileOutcome.ofFile recovering file).isParsed) = 2 ∧ files.length = 5 ∧
      (files.flatMap (SourceFile.entities recovering)).length = 3 := by decide +kernel
  have first : ∃ file ∈ files, ∃ entity ∈ (Model.firstNamed (file.entities recovering) "A").toList,
      entity.filePath = "/p/a/A.java" ∧ ∀ other ∈ files,
        ((other.entities recovering).any fun entity => entity.qualifiedName = "A") → file.precedes other := by
    decide +kernel
  obtain ⟨parsed, length, entities⟩ := counts
  obtain ⟨file, member, entity, here, path, least⟩ := first
  have allFiles := accounts.allFiles
  have filesParsed := accounts.filesParsed
  refine ⟨distinct, found, project {} copies "/p" (by decide +kernel) (List.Perm.refl _),
    anyOrder _ _ (List.reverse_perm files), filesParsed.trans parsed, by omega,
    accounts.allEntities.trans entities, entity, ?_, path⟩
  refine (accounts.firstKept "A" entity).mpr ⟨file, member, Option.mem_toList.mp here, ?_⟩
  rintro other inside ⟨declared, listed, named⟩
  exact least other inside (List.any_eq_true.mpr ⟨declared, listed, decide_eq_true named⟩)

end Ingestion

end CodeSurvey
