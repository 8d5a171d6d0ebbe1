import CodeSurvey.Config.Validation
import CodeSurvey.Project.Analyzer
import CodeSurvey.Proofs.Analysis.Json
import CodeSurvey.Proofs.Json.Text
import CodeSurvey.Proofs.Project.FileSystem
import CodeSurvey.Proofs.Project.Ingestion

namespace CodeSurvey

open Json Fields

section Records

theorem SourceStamp.readsBack : ReadsBack ofJson? toJson := by
  intro stamp
  rw [ofJson?, toJson, toFields?_bind]
  rw [required_named readsBack_str stamp.path (by simp), required_named readsBack_nat stamp.modified (by simp),
    required_named readsBack_nat stamp.size (by simp)]
  rfl

theorem CacheRecord.readsBack : ReadsBack ofJson? toJson := by
  intro stored
  rw [ofJson?, toJson, toFields?_bind]
  rw [required_named readsBack_str stored.schemaVersion (by simp),
    required_named readsBack_str stored.generatedAt (by simp),
    required_named SourceStamp.readsBack.list stored.sourceFiles (by simp)]
  rfl

theorem Json.areReadable_iff {levels : Nat} {items : List Json} :
    areReadable levels items ↔ ∀ item ∈ items, isReadable levels item := by
  induction items with
  | nil => simp [areReadable]
  | cons item items ih => simp [areReadable, ih]

theorem Json.isReadable_nat {levels n : Nat} (bounded : n < 2 ^ 64) : isReadable levels (nat n) := by
  cases levels <;> simp [nat, isReadable] <;> omega

theorem SourceStamp.isReadable_toJson {stamp : SourceStamp} {levels : Nat} (modified : stamp.modified < 2 ^ 64)
    (size : stamp.size < 2 ^ 64) : isReadable (levels + 1) stamp.toJson := by
  simp [toJson, isReadable, entriesReadable, isReadable_nat modified, isReadable_nat size]

/-- A file whose size and time of change fit into 64 bits. -/
def SourceFile.isBounded (source : SourceFile) : Bool :=
  source.modified < 2 ^ 64 && source.bytes.size < 2 ^ 64

/-- The record that goes with an analysis. -/
def Cache.recordOf (cache : Cache) (analysis : Analysis) (sources : List SourceFile) : CacheRecord where
  generatedAt := analysis.generatedAt
  sourceFiles := sources.map (SourceStamp.ofFile cache.root)

theorem Cache.parse?_recordOf {cache : Cache} {analysis : Analysis} {sources : List SourceFile}
    (bounded : sources.all SourceFile.isBounded) :
    (Json.parse? (cache.recordOf analysis sources).toJson.pretty).bind CacheRecord.ofJson? =
      some (cache.recordOf analysis sources) := by
  have stamps : areReadable 125 ((sources.map (SourceStamp.ofFile cache.root)).map SourceStamp.toJson) := by
    rw [areReadable_iff, List.forall_mem_map, List.forall_mem_map]
    intro source member
    have fits := List.all_eq_true.mp bounded source member
    simp only [SourceFile.isBounded, Bool.and_eq_true, decide_eq_true_eq] at fits
    exact SourceStamp.isReadable_toJson fits.1 fits.2
  have readable : isReadable 127 (cache.recordOf analysis sources).toJson := by
    simpa [recordOf, CacheRecord.toJson, isReadable, entriesReadable, Json.list] using stamps
  rw [Json.parse?_pretty (reread?_of_isReadable readable), Option.bind_some, CacheRecord.readsBack]

end Records

instance : DecidableEq SourceFile := fun a b =>
  decidable_of_iff (a.names = b.names ∧ a.path = b.path ∧ a.bytes.data = b.bytes.data ∧ a.modified = b.modified) (by
    cases a
    cases b
    simp [ByteArray.ext_iff])

/-- The sources of the project at a place. -/
def FileSystem.sources (files : FileSystem) (root : Location) : List SourceFile :=
  SourceFile.collect files root.text none

section Sources

variable {files later : FileSystem} {root names : Location} {source : SourceFile}

/-- A source file stands where its names lead. -/
theorem FileSystem.node?_of_mem_sources (found : files.find root.text = .ok (root, .directory))
    (member : source ∈ files.sources root) :
    source.names ≠ [] ∧ files.node? (root ++ source.names) = some (.file source.bytes source.modified) ∧
      source.path = source.names.foldl Path.join root.text := by
  rw [sources, SourceFile.collect, found] at member
  dsimp only [SourceFile.ofDirectory] at member
  obtain ⟨⟨names, bytes, modified⟩, below, kept⟩ := List.mem_filterMap.mp member
  dsimp only at kept
  split at kept
  · cases kept
    obtain ⟨nonempty, present⟩ := FileSystem.node?_of_mem_filesBelow below
    exact ⟨nonempty, present, rfl⟩
  · cases kept

theorem SourceStamp.relativePath_text (plain : ∀ name ∈ root ++ names, Path.IsPlain name) :
    relativePath root (root ++ names).text = "/".intercalate names := by
  have plainRoot : ∀ name ∈ root, Path.IsPlain name := fun name member =>
    plain name (List.mem_append_left names member)
  have begins (front rest : List Path.Component) : front.isPrefixOf (front ++ rest) :=
    List.isPrefixOf_iff_prefix.mpr ⟨rest, rfl⟩
  rw [relativePath, Location.components_text plainRoot, Location.components_text plain, List.map_append,
    ← List.cons_append, if_pos (begins _ _), List.drop_left, List.filterMap_map]
  exact congrArg "/".intercalate List.filterMap_some

/-- A source that is there as it was has not changed since its stamp was made. -/
theorem SourceStamp.not_isStale_ofFile (wellFormed : files.WellFormed) (keeps : files.Keeps later)
    (found : files.find root.text = .ok (root, .directory))
    (unchanged : later.sources root = files.sources root) (member : source ∈ files.sources root) :
    ¬(ofFile root source).isStale later root := by
  obtain ⟨nonempty, present, written⟩ := FileSystem.node?_of_mem_sources found member
  obtain ⟨_, stays, _⟩ := FileSystem.node?_of_mem_sources (keeps.find_directory found) (unchanged ▸ member)
  have plain := wellFormed.plain present
  obtain ⟨plainRoot, plainNames⟩ := List.forall_mem_append.mp plain
  have located := (FileSystem.find_eq_ok.mp (wellFormed.find_text present)).1
  have relative : relativePath root source.path = "/".intercalate source.names := by
    rw [written, Location.foldl_join_text plainRoot plainNames, relativePath_text plain]
  have still : later.find (Path.join root.text (relativePath root source.path)) =
      .ok (root ++ source.names, .file source.bytes source.modified) := by
    rw [relative, Location.join_text plainRoot plainNames nonempty]
    exact FileSystem.find_eq_ok.mpr ⟨keeps.locate located, stays⟩
  delta isStale
  rw [ofFile, still]
  simp

end Sources

/-- What an analysis comes to when it is read from its own text. -/
def Analysis.reread? (analysis : Analysis) : Option Analysis :=
  (Json.parse? analysis.toJson.compact).bind Analysis.ofJson?

theorem Analysis.reread?_eq {analysis : Analysis} {value : Json} (reads : analysis.toJson.reread? 127 = some value) :
    analysis.reread? = Analysis.ofJson? value := by
  rw [Analysis.reread?, Json.parse?_compact reads, Option.bind_some]

theorem Analysis.reread?_of_readable {analysis : Analysis} (readable : analysis.toJson.isReadable 127) :
    analysis.reread? = some analysis := by
  rw [Analysis.reread?_eq (reread?_of_isReadable readable), Analysis.readsBack]

namespace Cache

variable {cache : Cache} {files later : FileSystem} {analysis : Analysis} {sources : List SourceFile}
  {path text : String}

theorem readText_of_find {place : Location} {modified : Nat}
    (found : files.find path = .ok (place, .file text.toUTF8 modified)) : files.readText path = .ok text := by
  have bytes : files.readBytes path = .ok text.toUTF8 := by
    rw [FileSystem.readBytes, found]
    rfl
  have decoded : String.fromUTF8? text.toUTF8 = some text :=
    dif_pos text.isValidUTF8
  refine bind_eq_ok.mpr ⟨text.toUTF8, bytes, ?_⟩
  rw [decoded]
  rfl

theorem read_of_find {α : Type} {ofJson? : Json → Option α} {place : Location} {modified : Nat}
    (found : files.find path = .ok (place, .file text.toUTF8 modified)) :
    read files path ofJson? = ((Json.parse? text).bind ofJson?).elim (.error .json) .ok := by
  rw [read, readText_of_find found]
  dsimp only
  cases (Json.parse? text).bind ofJson? <;> rfl

/-- After an analysis was stored its text and that of its record stand in the cache. The two files have different
names, so the second write leaves the first file as it is. -/
theorem find_of_save (saved : cache.save files analysis sources = .ok later) :
    files.Keeps later ∧
      (∃ place, later.find cache.analysisPath = .ok (place, .file analysis.toJson.compact.toUTF8 0)) ∧
      ∃ place, later.find cache.recordPath =
        .ok (place, .file (cache.recordOf analysis sources).toJson.pretty.toUTF8 0) := by
  obtain ⟨middle, storedFirst, storedLast⟩ := bind_eq_ok.mp saved
  obtain ⟨ready, made, written⟩ := bind_eq_ok.mp storedFirst
  obtain ⟨readyAgain, madeAgain, writtenLast⟩ := bind_eq_ok.mp storedLast
  have grown := FileSystem.extends_of_makeDirectories made
  have grownAgain := FileSystem.extends_of_makeDirectories madeAgain
  obtain ⟨place, located, found⟩ := FileSystem.find_of_write written
  obtain ⟨last, locatedLast, foundLast⟩ := FileSystem.find_of_write writtenLast
  have apart : last ≠ place := by
    obtain ⟨front, rfl⟩ := FileSystem.exists_of_locate_join (by constructor <;> decide) located
    obtain ⟨frontLast, rfl⟩ := FileSystem.exists_of_locate_join (by constructor <;> decide) locatedLast
    intro same
    have names := congrArg List.getLast? same
    simp at names
  have elsewhere : readyAgain.locate cache.recordPath ≠ .ok place := by
    rw [locatedLast]
    simpa using apart
  refine ⟨?_, ⟨place, ?_⟩, last, foundLast⟩
  · exact ((grown.keeps.trans (FileSystem.keeps_of_write written)).trans grownAgain.keeps).trans
      (FileSystem.keeps_of_write writtenLast)
  · exact FileSystem.find_of_write_elsewhere writtenLast (grownAgain.find found) elsewhere

/-- A record is not stale while the sources it was made from stay as they are. -/
theorem not_isStale_recordOf (wellFormed : files.WellFormed) (keeps : files.Keeps later)
    (found : files.find cache.root.text = .ok (cache.root, .directory))
    (unchanged : later.sources cache.root = files.sources cache.root) :
    ¬(cache.recordOf analysis (files.sources cache.root)).isStale later cache.root (later.sources cache.root) := by
  have paths {sources : List SourceFile} : (sources.map (SourceStamp.ofFile cache.root)).map (·.path) =
      sources.map fun file => SourceStamp.relativePath cache.root file.path := List.map_map
  have fresh : ∀ stamp ∈ (files.sources cache.root).map (SourceStamp.ofFile cache.root),
      ¬stamp.isStale later cache.root :=
    List.forall_mem_map.mpr fun source member =>
      SourceStamp.not_isStale_ofFile wellFormed keeps found unchanged member
  rw [CacheRecord.isStale, recordOf, paths, unchanged]
  simpa using fresh

/-- What was stored is there as its text reads, while the sources stay as they are. -/
theorem stored?_of_save (wellFormed : files.WellFormed)
    (found : files.find cache.root.text = .ok (cache.root, .directory))
    (unchanged : later.sources cache.root = files.sources cache.root)
    (bounded : (files.sources cache.root).all SourceFile.isBounded)
    (saved : cache.save files analysis (files.sources cache.root) = .ok later) :
    Analyzer.stored? later (some (cache, later.sources cache.root)) = analysis.reread? := by
  obtain ⟨keeps, ⟨place, analysisFound⟩, last, recordFound⟩ := find_of_save saved
  have complete : cache.isComplete later := by
    simp [isComplete, FileSystem.contains, analysisFound, recordFound, Except.isOk, Except.toBool]
  have record : read later cache.recordPath CacheRecord.ofJson? =
      .ok (cache.recordOf analysis (files.sources cache.root)) := by
    rw [read_of_find recordFound, parse?_recordOf bounded, Option.elim_some]
  have fresh : ¬(cache.recordOf analysis (files.sources cache.root)).isStale later cache.root
      (later.sources cache.root) := not_isStale_recordOf wellFormed keeps found unchanged
  have usable : ¬(!(cache.recordOf analysis (files.sources cache.root)).isCompatible ||
      (cache.recordOf analysis (files.sources cache.root)).isStale later cache.root (later.sources cache.root)) := by
    simpa [recordOf, CacheRecord.isCompatible] using fresh
  have loaded : cache.load later (later.sources cache.root) =
      (read later cache.analysisPath Analysis.ofJson?).map some := by
    rw [load, if_neg (by simpa using complete), record]
    dsimp only [bind, Except.bind]
    rw [if_neg usable]
    rfl
  delta Analyzer.stored?
  dsimp only
  rw [loaded, read_of_find analysisFound, ← Analysis.reread?]
  cases analysis.reread? <;> rfl

end Cache

/-- An analysis without the times, which say nothing about the project. -/
def Analysis.undated (analysis : Analysis) : Analysis :=
  { analysis with generatedAt := "", timing := {} }

namespace Cache

/-- The cache of the project at a place. -/
def ofRoot (base : String) (root : Location) : Cache where
  root
  directory := Path.join base (Digest.hex64 (Digest.fnv1a root.text))

/-- The analysis that the cache of a project holds, when it is one of the sources. -/
def held? (base : String) (files : FileSystem) (root : Location) : Option Analysis :=
  Analyzer.stored? files (some (ofRoot base root, files.sources root))

/-- What a run finds in the cache of a project, or else leaves there: its own analysis as it reads from its text,
if that could be written. -/
def kept? (base : String) (files : FileSystem) (root : Location) (analysis : Analysis) : Option Analysis :=
  (held? base files root).or
    (if ((ofRoot base root).save files analysis (files.sources root)).isOk then analysis.reread? else none)

end Cache

namespace Analyzer

/-- A new analyzer that uses no cache on disk. -/
def plain (frontend : Frontend) (config : Config) : Analyzer where
  config
  frontend

/-- A new analyzer that keeps caches on disk. -/
def caching (frontend : Frontend) (config : Config) (base : String) : Analyzer where
  config
  frontend
  cacheBase := some base

/-- What an analyzer says about the project at a path. -/
def answer (analyzer : Analyzer) (files : FileSystem) (path : String) : Except Failure Analysis :=
  (analyzer.all files path).map fun run => run.1.undated

variable {frontend : Frontend} {after : Analyzer} {config first second : Config} {files later : FileSystem}
  {root : Location} {path base : String} {analysis : Analysis}

theorem canonicalRoot_eq_ok : canonicalRoot files path = .ok root ↔ files.find path = .ok (root, .directory) := by
  unfold canonicalRoot
  split <;> simp_all

theorem load_eq {analyzer : Analyzer} (found : files.find root.text = .ok (root, .directory)) :
    analyzer.load files root.text =
      .ok (.ofFiles analyzer.frontend analyzer.config.parallel (files.sources root)) := by
  refine bind_eq_ok.mpr ⟨root, canonicalRoot_eq_ok.mpr found, ?_⟩
  have directory : files.isDirectory root.text := by simp [FileSystem.isDirectory, found]
  exact if_pos directory

/-- A new analysis is one of the configuration and of the sources alone. -/
theorem compute_congr (found : files.find root.text = .ok (root, .directory)) (keeps : files.Keeps later)
    (unchanged : later.sources root = files.sources root) :
    (plain frontend config).compute later root = (plain frontend config).compute files root := by
  rw [compute, compute, loadNonempty, loadNonempty, load_eq found, load_eq (keeps.find_directory found), unchanged]

theorem cache?_caching (found : files.find root.text = .ok (root, .directory)) :
    (caching frontend config base).cache? files root = some (.ofRoot base root, files.sources root) := by
  have cached : Cache.ofProject base files root.text = .ok (.ofRoot base root) :=
    bind_eq_ok.mpr ⟨_, found, rfl⟩
  simp only [cache?, caching, cached]
  rfl

/-- A new analyzer remembers nothing. -/
theorem all_of_new {analyzer : Analyzer} (new : analyzer.memo = ∅)
    (found : files.find path = .ok (root, .directory)) :
    analyzer.all files path =
      match stored? files (analyzer.cache? files root) with
      | some analysis => .ok (analysis, analyzer.remember root analysis, files)
      | none => (analyzer.compute files root).map fun analysis =>
        (analysis, analyzer.remember root analysis, store files (analyzer.cache? files root) analysis) := by
  have forgotten : analyzer.memo.get? root = none := by simp [new]
  rw [all, canonicalRoot_eq_ok.mpr found]
  dsimp only [bind, Except.bind]
  rw [forgotten]
  cases stored? files (analyzer.cache? files root) with
  | some analysis => rfl
  | none => cases analyzer.compute files root <;> rfl

theorem answer_plain (found : files.find path = .ok (root, .directory)) :
    (plain frontend config).answer files path =
      ((plain frontend config).compute files root).map Analysis.undated := by
  rw [answer, all_of_new rfl found]
  change Except.map _ (Except.map _ ((plain frontend config).compute files root)) = _
  cases (plain frontend config).compute files root <;> rfl

theorem answer_caching (foundText : files.find root.text = .ok (root, .directory))
    (found : files.find path = .ok (root, .directory)) :
    (caching frontend config base).answer files path =
      (Cache.held? base files root).elim ((plain frontend config).answer files path)
        fun stored => .ok stored.undated := by
  rw [answer, all_of_new rfl found, cache?_caching foundText, answer_plain found, ← Cache.held?]
  cases Cache.held? base files root with
  | some analysis => rfl
  | none =>
    change Except.map _ (Except.map _ ((plain frontend config).compute files root)) = _
    cases (plain frontend config).compute files root <;> rfl

theorem keeps_of_store (files : FileSystem) (cache : Option (Cache × List SourceFile)) (analysis : Analysis) :
    files.Keeps (store files cache analysis) := by
  have same : files.Keeps files := (FileSystem.Extends.refl files).keeps
  unfold store
  split
  · exact same
  · split
    · next saved => exact (Cache.find_of_save saved).1
    · exact same

section Run

variable (wellFormed : files.WellFormed) (found : files.find path = .ok (root, .directory))
  (run : (caching frontend first base).all files path = .ok (analysis, after, later))
include wellFormed found

/-- Nothing in an answer depends on how many files are read at once. -/
theorem answer_parallel (parallel : ParallelConfig) :
    (plain frontend { config with parallel }).answer files path = (plain frontend config).answer files path := by
  have foundText := wellFormed.find_text_of_find found
  have loaded : (plain frontend { config with parallel }).load files root.text =
      (plain frontend config).load files root.text := by
    rw [load_eq foundText, load_eq foundText]
    exact congrArg Except.ok (Ingestion.ofFiles_parallel _ _)
  have computed : (plain frontend { config with parallel }).compute files root =
      (plain frontend config).compute files root := by
    rw [compute, compute, loadNonempty, loadNonempty, loaded]
    rfl
  rw [answer_plain found, answer_plain found, computed]

include run

/-- A run either finds an analysis, or makes one and stores it if it can. -/
theorem cases_of_run :
    Cache.held? base files root = some analysis ∧ later = files ∨
      Cache.held? base files root = none ∧ (plain frontend first).compute files root = .ok analysis ∧
        later = store files (some (.ofRoot base root, files.sources root)) analysis := by
  rw [all_of_new rfl found, cache?_caching (wellFormed.find_text_of_find found), ← Cache.held?] at run
  split at run
  · next stored =>
    cases run
    exact .inl ⟨stored, rfl⟩
  · next nothing =>
    change Except.map _ ((plain frontend first).compute files root) = _ at run
    cases computed : (plain frontend first).compute files root with
    | error cause => rw [computed] at run; cases run
    | ok made =>
      rw [computed] at run
      cases run
      exact .inr ⟨nothing, rfl, rfl⟩

theorem keeps_of_run : files.Keeps later := by
  rcases cases_of_run wellFormed found run with ⟨_, same⟩ | ⟨_, _, stored⟩
  · rw [same]
    exact (FileSystem.Extends.refl files).keeps
  · rw [stored]
    exact keeps_of_store files _ analysis

/-- What the cache of a project holds after a run. -/
theorem held?_of_run (unchanged : later.sources root = files.sources root)
    (bounded : (files.sources root).all SourceFile.isBounded) :
    Cache.held? base later root = Cache.kept? base files root analysis := by
  unfold Cache.kept?
  rcases cases_of_run wellFormed found run with ⟨held, same⟩ | ⟨nothing, _, stored⟩
  · rw [same, held]
    rfl
  · rw [nothing, Option.none_or]
    cases saved : (Cache.ofRoot base root).save files analysis (files.sources root) with
    | error cause =>
      have same : later = files := by rw [stored, store, saved]
      rw [same, nothing]
      rfl
    | ok written =>
      have same : later = written := by rw [stored, store, saved]
      rw [← same] at saved
      exact Cache.stored?_of_save wellFormed (wellFormed.find_text_of_find found) unchanged bounded saved

/-- What a run found is its analysis. -/
theorem kept?_of_held (held : (Cache.held? base files root).isSome) :
    Cache.kept? base files root analysis = some analysis := by
  rcases cases_of_run wellFormed found run with ⟨isAnalysis, _⟩ | ⟨nothing, _⟩
  · rw [Cache.kept?, isAnalysis, Option.some_or]
  · rw [nothing] at held
    cases held

/-- The same sources are answered for in the same way. -/
theorem answer_plain_of_run (unchanged : later.sources root = files.sources root) :
    (plain frontend second).answer later path = (plain frontend second).answer files path := by
  have keeps := keeps_of_run wellFormed found run
  rw [answer_plain found, answer_plain (keeps.find_directory found),
    compute_congr (wellFormed.find_text_of_find found) keeps unchanged]

/-- What a run left in the cache is the next answer. -/
theorem answer_caching_of_run (unchanged : later.sources root = files.sources root)
    (bounded : (files.sources root).all SourceFile.isBounded) :
    (caching frontend second base).answer later path =
      (Cache.kept? base files root analysis).elim ((plain frontend second).answer files path)
        fun stored => .ok stored.undated := by
  have keeps := keeps_of_run wellFormed found run
  rw [answer_caching (keeps.find_directory (wellFormed.find_text_of_find found)) (keeps.find_directory found),
    held?_of_run wellFormed found run unchanged bounded, answer_plain_of_run wellFormed found run unchanged]

/-- A second run answers as without caches exactly when it would come to what is kept by itself. -/
theorem answer_caching_eq_plain_iff (unchanged : later.sources root = files.sources root)
    (bounded : (files.sources root).all SourceFile.isBounded) :
    (caching frontend second base).answer later path = (plain frontend second).answer later path ↔
      ∀ stored ∈ Cache.kept? base files root analysis,
        (plain frontend second).answer files path = .ok stored.undated := by
  rw [answer_caching_of_run wellFormed found run unchanged bounded,
    answer_plain_of_run wellFormed found run unchanged]
  cases Cache.kept? base files root analysis with
  | none => simp
  | some stored => simp [eq_comm]

/-- The first answer is the run's own. -/
theorem answer_first_of_run (nothing : Cache.held? base files root = none) :
    (plain frontend first).answer files path = .ok analysis.undated := by
  rcases cases_of_run wellFormed found run with ⟨held, _⟩ | ⟨_, computed, _⟩
  · rw [nothing] at held
    cases held
  · rw [answer_plain found, computed]
    rfl

end Run

/-- After a run with caches, a second one on the same sources answers what the first one left in the cache, whatever
its own configuration asks for. So it answers as without caches exactly when it would have come to that by itself.
Even with one configuration that is so only if the numbers of the analysis come back from their texts. -/
theorem caches_answer_first (wellFormed : files.WellFormed) (located : canonicalRoot files path = .ok root)
    (run : (caching frontend first base).all files path = .ok (analysis, after, later))
    (unchanged : later.sources root = files.sources root)
    (bounded : (files.sources root).all SourceFile.isBounded) :
    (∀ stored ∈ Cache.kept? base files root analysis,
      (caching frontend second base).answer later path = .ok stored.undated) ∧
    ((caching frontend second base).answer later path = (plain frontend second).answer later path ↔
      ∀ stored ∈ Cache.kept? base files root analysis,
        (plain frontend second).answer files path = .ok stored.undated) ∧
    ((Cache.held? base files root).isSome → Cache.kept? base files root analysis = some analysis) ∧
    (Cache.held? base files root = none →
      (plain frontend first).answer files path = .ok analysis.undated ∧
      (second = { first with parallel := second.parallel } →
        ((caching frontend second base).answer later path = (plain frontend second).answer later path ↔
          ∀ stored ∈ Cache.kept? base files root analysis, stored.undated = analysis.undated) ∧
        (analysis.toJson.isReadable 127 →
          (caching frontend second base).answer later path = (plain frontend second).answer later path))) := by
  have found := canonicalRoot_eq_ok.mp located
  have transparent : (caching frontend second base).answer later path = (plain frontend second).answer later path ↔
      ∀ stored ∈ Cache.kept? base files root analysis,
        (plain frontend second).answer files path = .ok stored.undated :=
    answer_caching_eq_plain_iff wellFormed found run unchanged bounded
  refine ⟨fun stored kept => ?_, transparent, kept?_of_held wellFormed found run, fun nothing => ?_⟩
  · rw [answer_caching_of_run wellFormed found run unchanged bounded, Option.mem_def.mp kept, Option.elim_some]
  have alone := answer_first_of_run wellFormed found run nothing
  refine ⟨alone, fun agree => ?_⟩
  have same : (plain frontend second).answer files path = .ok analysis.undated := by
    rw [agree, answer_parallel wellFormed found, alone]
  rw [transparent, same]
  simp only [Except.ok.injEq]
  refine ⟨forall₂_congr fun stored _ => eq_comm, fun readable stored kept => ?_⟩
  rw [Cache.kept?, nothing, Option.none_or, Analysis.reread?_of_readable readable] at kept
  cases (Option.ite_none_right_eq_some.mp kept).2
  rfl

/-- A project of one file. -/
def ofSource (source : String) : FileSystem :=
  (({} : FileSystem).setNode ["p"] .directory).setNode ["p", "A.java"] (.file source.toUTF8 0)

theorem ofSource_wellFormed (source : String) : (ofSource source).WellFormed := by
  have project : (({} : FileSystem).setNode ["p"] .directory).WellFormed :=
    FileSystem.wellFormed_empty.setNode [] "p" rfl (by constructor <;> decide) nofun
  refine project.setNode ["p"] "A.java" rfl (by constructor <;> decide) ?_
  rw [FileSystem.node?_setNode (List.cons_ne_nil _ _), if_neg (by decide)]
  exact nofun

/-- A first run with the defaults on a project of one file, where the cache is empty before. -/
structure FirstRun (source : String) (analysis : Analysis) (after : Analyzer) (later : FileSystem) : Prop where
  run : (caching .byGrammar {} "/caches").all (ofSource source) "/p" = .ok (analysis, after, later)
  unchanged : later.sources ["p"] = (ofSource source).sources ["p"]
  bounded : ((ofSource source).sources ["p"]).all SourceFile.isBounded
  nothing : Cache.held? "/caches" (ofSource source) ["p"] = none
  saved : ((Cache.ofRoot "/caches" ["p"]).save (ofSource source) analysis ((ofSource source).sources ["p"])).isOk

/-- What a run comes to can be evaluated. -/
theorem exists_firstRun {source : String} {p : Analysis → Prop} [DecidablePred p]
    (checked : ((caching .byGrammar {} "/caches").all (ofSource source) "/p").toOption.any fun run =>
      run.2.2.sources ["p"] = (ofSource source).sources ["p"] &&
        ((ofSource source).sources ["p"]).all SourceFile.isBounded &&
        (Cache.held? "/caches" (ofSource source) ["p"]).isNone &&
        ((Cache.ofRoot "/caches" ["p"]).save (ofSource source) run.1 ((ofSource source).sources ["p"])).isOk &&
        decide (p run.1)) :
    ∃ analysis after later, FirstRun source analysis after later ∧ p analysis := by
  cases ran : (caching .byGrammar {} "/caches").all (ofSource source) "/p" with
  | error cause => rw [ran] at checked; cases checked
  | ok run =>
    obtain ⟨analysis, after, later⟩ := run
    rw [ran] at checked
    simp only [Except.toOption, Option.any_some, Bool.and_eq_true, decide_eq_true_eq, Option.isNone_iff_eq_none]
      at checked
    obtain ⟨⟨⟨⟨unchanged, bounded⟩, nothing⟩, saved⟩, holds⟩ := checked
    exact ⟨analysis, after, later, ⟨ran, unchanged, bounded, nothing, saved⟩, holds⟩

theorem FirstRun.kept? {source : String} {analysis : Analysis} {after : Analyzer} {later : FileSystem}
    (first : FirstRun source analysis after later) :
    Cache.kept? "/caches" (ofSource source) ["p"] analysis = analysis.reread? := by
  rw [Cache.kept?, first.nothing, Option.none_or, if_pos first.saved]

/-- A class that carries a mark. -/
def marked : String := "@Keep class A \x7b\x7d"

/-- Counts what carries the mark among the entry points, so that it is not unused. -/
def marking : Config where
  entryPoints := { annotations := ["Keep"] }

theorem exists_firstRun_marked : ∃ analysis after later, FirstRun marked analysis after later ∧
    analysis.toJson.isReadable 127 ∧ analysis.dependencies.unusedClasses = ["A"] :=
  exists_firstRun (by decide +kernel)

theorem caches_answer_first_marked : ∃ analysis after later,
    (caching .byGrammar {} "/caches").all (ofSource marked) "/p" = .ok (analysis, after, later) ∧
      later.sources ["p"] = (ofSource marked).sources ["p"] ∧
      Cache.kept? "/caches" (ofSource marked) ["p"] analysis = some analysis ∧
      (caching .byGrammar marking "/caches").answer later "/p" = .ok analysis.undated ∧
      (plain .byGrammar {}).answer (ofSource marked) "/p" = .ok analysis.undated := by
  obtain ⟨analysis, after, later, first, readable, _⟩ := exists_firstRun_marked
  have located : canonicalRoot (ofSource marked) "/p" = .ok ["p"] := canonicalRoot_eq_ok.mpr rfl
  have kept : Cache.kept? "/caches" (ofSource marked) ["p"] analysis = some analysis :=
    first.kept?.trans (Analysis.reread?_of_readable readable)
  obtain ⟨given, _, _, alone⟩ :=
    caches_answer_first (ofSource_wellFormed marked) located first.run first.unchanged first.bounded
  exact ⟨analysis, after, later, first.run, first.unchanged, kept, given analysis kept, (alone first.nothing).1⟩

/-- Four of the 42 pairs of seven classes depend on each other. -/
def star : String :=
  "class A \x7b B b; C c; D d; E e; \x7d class B \x7b\x7d class C \x7b\x7d class D \x7b\x7d" ++
    " class E \x7b\x7d class F \x7b\x7d class G \x7b\x7d"

/-- The share of those pairs is read as another number than was written. -/
theorem exists_firstRun_star : ∃ analysis after later, FirstRun star analysis after later ∧
    ∃ value ∈ (analysis.toJson.reread? 127).toList, ∃ stored ∈ (Analysis.ofJson? value).toList,
      stored.graph.metrics.density ≠ analysis.graph.metrics.density :=
  exists_firstRun (by decide +kernel)

/-- The classes that an answer calls unused. -/
def unusedClasses? (answer : Except Failure Analysis) : Option (List String) :=
  answer.toOption.map fun analysis => analysis.dependencies.unusedClasses

/-- A second run that counts a class among the entry points is told that the class is unused. And a second run with
the configuration of the first is told another number. -/
theorem caches_answer_unasked :
    (∃ (first second : Config) (files later : FileSystem) (analysis : Analysis) (after : Analyzer),
      first.validate.isOk ∧ second.validate.isOk ∧
      (caching .byGrammar first "/caches").all files "/p" = .ok (analysis, after, later) ∧
      later.sources ["p"] = files.sources ["p"] ∧
      (caching .byGrammar second "/caches").answer later "/p" ≠ (plain .byGrammar second).answer later "/p") ∧
    ∃ (config : Config) (files later : FileSystem) (analysis : Analysis) (after : Analyzer), config.validate.isOk ∧
      (caching .byGrammar config "/caches").all files "/p" = .ok (analysis, after, later) ∧
      later.sources ["p"] = files.sources ["p"] ∧
      (caching .byGrammar config "/caches").answer later "/p" ≠ (plain .byGrammar config).answer later "/p" := by
  have valid : ({} : Config).validate.isOk := by decide +kernel
  have found (source : String) : (ofSource source).find "/p" = .ok (["p"], .directory) := rfl
  constructor
  · obtain ⟨analysis, after, later, first, readable, unused⟩ := exists_firstRun_marked
    have kept := first.kept?.trans (Analysis.reread?_of_readable readable)
    have asked : unusedClasses? ((plain .byGrammar marking).answer (ofSource marked) "/p") = some [] := by
      decide +kernel
    refine ⟨{}, marking, ofSource marked, later, analysis, after, valid, by decide +kernel, first.run,
      first.unchanged, fun same => ?_⟩
    have given := (answer_caching_eq_plain_iff (ofSource_wellFormed marked) (found marked) first.run first.unchanged
      first.bounded).mp same analysis kept
    rw [given] at asked
    exact absurd (unused.symm.trans (Option.some.inj asked)) (List.cons_ne_nil _ _)
  · obtain ⟨analysis, after, later, first, value, reads, stored, decoded, differs⟩ := exists_firstRun_star
    have kept := (first.kept?.trans (Analysis.reread?_eq (Option.mem_toList.mp reads))).trans
      (Option.mem_toList.mp decoded)
    have alone := answer_first_of_run (ofSource_wellFormed star) (found star) first.run first.nothing
    refine ⟨{}, ofSource star, later, analysis, after, valid, first.run, first.unchanged, fun same => ?_⟩
    have given := (answer_caching_eq_plain_iff (ofSource_wellFormed star) (found star) first.run first.unchanged
      first.bounded).mp same stored kept
    have undated : analysis.undated = stored.undated := Except.ok.inj (alone.symm.trans given)
    have density := congrArg (fun analysis : Analysis => analysis.graph.metrics.density) undated
    exact differs density.symm

end Analyzer

end CodeSurvey
