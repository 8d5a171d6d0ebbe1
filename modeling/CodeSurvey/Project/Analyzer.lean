import CodeSurvey.Project.Cache
import CodeSurvey.Project.Ingestion
import CodeSurvey.Summary

namespace CodeSurvey

structure Analyzer where
  config : Config := {}
  frontend : Frontend := .byGrammar
  /-- Where caches are kept, when they are used. -/
  cacheBase : Option String := none
  memo : Std.ExtTreeMap Location Analysis compare := ∅

namespace Analyzer

/-- The place of a project's root, which has to be a directory. -/
def canonicalRoot (files : FileSystem) (path : String) : Except Failure Location :=
  match files.find path with
  | .ok (root, .directory) => .ok root
  | _ => .error (.invalidProjectRoot path)

def load (analyzer : Analyzer) (files : FileSystem) (path : String) : Except Failure Ingestion := do
  let root ← canonicalRoot files path
  Ingestion.ofProject analyzer.config.parallel files root.text analyzer.frontend

/-- A project without entities is refused. -/
def loadNonempty (analyzer : Analyzer) (files : FileSystem) (path : String) :
    Except Failure Ingestion := do
  let found ← analyzer.load files path
  if found.model.size == 0 then throw (.emptyProject path)
  return found

def dependencies (analyzer : Analyzer) (files : FileSystem) (path : String) :
    Except Failure DependencyResult := do
  let found ← analyzer.loadNonempty files path
  return .ofModel analyzer.config found.model found.skipped

def metrics (analyzer : Analyzer) (files : FileSystem) (path : String) :
    Except Failure MetricsResult := do
  let found ← analyzer.loadNonempty files path
  return .ofDependencies analyzer.config found.model
    (.ofModel analyzer.config found.model found.skipped)

def graph (analyzer : Analyzer) (files : FileSystem) (path : String) : Except Failure GraphResult := do
  let found ← analyzer.loadNonempty files path
  return .ofDependencies (.ofModel analyzer.config found.model found.skipped)

def patterns (analyzer : Analyzer) (files : FileSystem) (path : String) :
    Except Failure PatternSearch := do
  let found ← analyzer.loadNonempty files path
  return .ofModel found.model analyzer.config.searchedPatterns

/-- Counts only; a project without entities has zeros. -/
def summary (analyzer : Analyzer) (files : FileSystem) (path : String) : Except Failure Summary := do
  let found ← analyzer.load files path
  return { Summary.ofModel found.model with
    projectRoot := path
    filesParsed := found.filesParsed
    filesSkipped := found.skipped.length }

/-- A full analysis made anew. -/
def compute (analyzer : Analyzer) (files : FileSystem) (root : Location) :
    Except Failure Analysis := do
  let found ← analyzer.loadNonempty files root.text
  return { Analysis.ofModel analyzer.config found.model found.skipped with
    projectRoot := root.text
    filesParsed := found.filesParsed }

/-- The cache on disk for a project, when caches are used, and the sources it has to fit. -/
def cache? (analyzer : Analyzer) (files : FileSystem) (root : Location) :
    Option (Cache × List SourceFile) :=
  match analyzer.cacheBase with
  | none => none
  | some base =>
    match Cache.ofProject base files root.text with
    | .ok cache => some (cache, SourceFile.collect files root.text none)
    | .error _ => none

/-- A cache that cannot be read counts as one that holds nothing. -/
def stored? (files : FileSystem) (cache : Option (Cache × List SourceFile)) : Option Analysis :=
  match cache with
  | none => none
  | some (cache, sources) =>
    match cache.load files sources with
    | .ok found => found
    | .error _ => none

/-- A cache that cannot be written stays as it is. -/
def store (files : FileSystem) (cache : Option (Cache × List SourceFile)) (analysis : Analysis) :
    FileSystem :=
  match cache with
  | none => files
  | some (cache, sources) =>
    match cache.save files analysis sources with
    | .ok files => files
    | .error _ => files

def remember (analyzer : Analyzer) (root : Location) (analysis : Analysis) : Analyzer :=
  { analyzer with memo := analyzer.memo.insert root analysis }

/-- The full analysis of a project: the one remembered, else the one stored, else a new one, which is
then stored. -/
def all (analyzer : Analyzer) (files : FileSystem) (path : String) :
    Except Failure (Analysis × Analyzer × FileSystem) := do
  let root ← canonicalRoot files path
  match analyzer.memo.get? root with
  | some analysis => return (analysis, analyzer, files)
  | none =>
    let cache := analyzer.cache? files root
    match stored? files cache with
    | some analysis => return (analysis, analyzer.remember root analysis, files)
    | none =>
      let analysis ← analyzer.compute files root
      return (analysis, analyzer.remember root analysis, store files cache analysis)

def isMemoized (analyzer : Analyzer) (files : FileSystem) (path : String) : Bool :=
  match files.find path with
  | .ok (root, _) => analyzer.memo.contains root
  | .error _ => false

def clearMemo (analyzer : Analyzer) : Analyzer :=
  { analyzer with memo := ∅ }

end Analyzer

end CodeSurvey
