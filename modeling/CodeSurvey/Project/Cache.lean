import CodeSurvey.Analysis.Decode
import CodeSurvey.Analysis.Encode
import CodeSurvey.Digest.Fnv
import CodeSurvey.Json.Reader
import CodeSurvey.Json.Writer
import CodeSurvey.Project.SourceFiles
import CodeSurvey.Sum

namespace CodeSurvey

/-- What is remembered of a source file, to tell whether it has changed. -/
structure SourceStamp where
  path : String
  modified : Nat
  size : Nat
  deriving DecidableEq, Inhabited, Repr

/-- The record of an analysis on disk. -/
structure CacheRecord where
  schemaVersion : String := CodeSurvey.schemaVersion
  generatedAt : String := ""
  sourceFiles : List SourceStamp

namespace SourceStamp

def toJson (stamp : SourceStamp) : Json :=
  .obj [("path", .str stamp.path), ("mtime", .nat stamp.modified), ("size", .nat stamp.size)]

def ofJson? (value : Json) : Option SourceStamp := do
  let fields ← value.toFields? 3
  return { path := ← fields.required 0 "path" Json.toString?
           modified := ← fields.required 1 "mtime" Json.toCount?
           size := ← fields.required 2 "size" Json.toCount? }

/-- The path of a file from the root of a project; a path that does not lead through the root stays as
it is. -/
def relativePath (root : Location) (path : String) : String :=
  let top := Path.components root.text
  let whole := Path.components path
  if top.isPrefixOf whole then
    "/".intercalate ((whole.drop top.length).filterMap fun
      | .name text => some text
      | .up => some ".."
      | _ => none)
  else path

def ofFile (root : Location) (file : SourceFile) : SourceStamp where
  path := relativePath root file.path
  modified := file.modified
  size := file.bytes.size

/-- Whether a file is no longer what the stamp says. -/
def isStale (stamp : SourceStamp) (files : FileSystem) (root : Location) : Bool :=
  match files.find (Path.join root.text stamp.path) with
  | .ok (_, .file bytes modified) => modified != stamp.modified || bytes.size != stamp.size
  | _ => true

end SourceStamp

namespace CacheRecord

def toJson (stored : CacheRecord) : Json :=
  .obj [("schema_version", .str stored.schemaVersion), ("generated_at", .str stored.generatedAt),
    ("source_files", Json.list stored.sourceFiles SourceStamp.toJson)]

def ofJson? (value : Json) : Option CacheRecord := do
  let fields ← value.toFields? 3
  return { schemaVersion := ← fields.required 0 "schema_version" Json.toString?
           generatedAt := ← fields.required 1 "generated_at" Json.toString?
           sourceFiles := ← fields.required 2 "source_files" (Json.toList? SourceStamp.ofJson?) }

def isCompatible (stored : CacheRecord) : Bool :=
  stored.schemaVersion == CodeSurvey.schemaVersion

/-- Whether the sources have changed: other files are there, or one has another size or time. -/
def isStale (stored : CacheRecord) (files : FileSystem) (root : Location)
    (sources : List SourceFile) : Bool :=
  let recorded : NameSet := .ofList (stored.sourceFiles.map (·.path)) compare
  let current : NameSet :=
    .ofList (sources.map fun file => SourceStamp.relativePath root file.path) compare
  recorded.toList != current.toList ||
    stored.sourceFiles.any fun stamp => stamp.isStale files root

end CacheRecord

/-- The place of a project's analyses on disk. -/
structure Cache where
  /-- The project's root. -/
  root : Location
  /-- The directory of the stored files. -/
  directory : String

namespace Cache

/-- The cache of the project at a path, below a directory for the caches of all projects. Projects are
told apart by a hash of their roots. -/
def ofProject (base : String) (files : FileSystem) (path : String) : Except FileError Cache := do
  let (root, _) ← files.find path
  return { root, directory := Path.join base (Digest.hex64 (Digest.fnv1a root.text)) }

def recordPath (cache : Cache) : String :=
  Path.join cache.directory "meta.json"

def analysisPath (cache : Cache) : String :=
  Path.join cache.directory "analysis.json"

def isComplete (cache : Cache) (files : FileSystem) : Bool :=
  files.contains cache.recordPath && files.contains cache.analysisPath

/-- The number of bytes stored. -/
def size (cache : Cache) (files : FileSystem) : Nat :=
  match files.find cache.directory with
  | .ok (location, .directory) => sumOf (·.2.1.size) (files.filesBelow location)
  | _ => 0

def clear (cache : Cache) (files : FileSystem) : FileSystem :=
  match files.find cache.directory with
  | .ok (location, _) => files.erase location
  | .error _ => files

/-- Stores a text in the cache. -/
def write (cache : Cache) (files : FileSystem) (path text : String) : Except FileError FileSystem := do
  let files ← files.makeDirectories cache.directory
  files.write path text.toUTF8 0

/-- Stores an analysis of the given sources. -/
def save (cache : Cache) (files : FileSystem) (analysis : Analysis) (sources : List SourceFile) :
    Except FileError FileSystem := do
  let stored : CacheRecord :=
    { generatedAt := analysis.generatedAt
      sourceFiles := sources.map (SourceStamp.ofFile cache.root) }
  let files ← cache.write files cache.analysisPath analysis.toJson.compact
  cache.write files cache.recordPath stored.toJson.pretty

/-- A stored text, read as a record. -/
def read (files : FileSystem) (path : String) (ofJson? : Json → Option α) : Except Failure α :=
  match files.readText path with
  | .error cause => .error (.io cause)
  | .ok text =>
    match (Json.parse? text).bind ofJson? with
    | some value => .ok value
    | none => .error .json

/-- The stored analysis, when it is that of the given sources. -/
def load (cache : Cache) (files : FileSystem) (sources : List SourceFile) :
    Except Failure (Option Analysis) :=
  if !cache.isComplete files then .ok none
  else do
    let stored ← read files cache.recordPath CacheRecord.ofJson?
    if !stored.isCompatible || stored.isStale files cache.root sources then return none
    else return some (← read files cache.analysisPath Analysis.ofJson?)

end Cache

end CodeSurvey
