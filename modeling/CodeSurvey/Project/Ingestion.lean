import CodeSurvey.Config.Basic
import CodeSurvey.Failure
import CodeSurvey.Java.Extraction
import CodeSurvey.Project.SourceFiles

namespace CodeSurvey

/-- What a front end finds in the text of one file. Declarations may be found beside syntax errors. -/
structure FileExtraction where
  entities : List Entity
  hasErrors : Bool

/-- How files are read and their texts taken apart. A text that cannot be taken apart at all gives a message. -/
structure Frontend where
  readText : SourceFile → Except FileError String
  extract : Language → String → String → Except String FileExtraction

/-- Reads files as UTF-8 and takes a text apart by the grammar. Where a text does not follow it, this front end
reports an error and no declaration, though another may find some. -/
def Frontend.byGrammar : Frontend where
  readText file :=
    match String.fromUTF8? file.bytes with
    | some text => .ok text
    | none => .error .notText
  extract
    | .java, path, source =>
      match Java.extractSource? path source with
      | some entities => .ok ⟨entities, false⟩
      | none => .ok ⟨[], true⟩

/-- What becomes of one source file. -/
inductive FileOutcome where
  | parsed (entities : List Entity)
  | skipped (file : SkippedFile)

/-- A file with syntax errors is skipped only if nothing is declared in it. -/
def FileOutcome.ofFile (frontend : Frontend) (file : SourceFile) : FileOutcome :=
  match Language.ofPath file.path with
  | .error ext => .skipped ⟨file.path, (Failure.unsupportedLanguage ext).message⟩
  | .ok language =>
    match frontend.readText file with
    | .error cause => .skipped ⟨file.path, cause.message⟩
    | .ok source =>
      match frontend.extract language file.path source with
      | .error message => .skipped ⟨file.path, "Failed to parse " ++ file.path ++ ": " ++ message⟩
      | .ok found =>
        if found.hasErrors && found.entities.isEmpty then
          .skipped ⟨file.path, "syntax errors and no declarations"⟩
        else .parsed found.entities

/-- The outcomes of files in their order, one after the other or all at once. -/
def FileOutcome.ofFiles (frontend : Frontend) (config : ParallelConfig) (files : List SourceFile) :
    List FileOutcome :=
  if config.enabled then
    (files.map fun file => Task.spawn fun _ => ofFile frontend file).map Task.get
  else files.map (ofFile frontend)

/-- By path, then by reason. -/
def SkippedFile.precedes (a b : SkippedFile) : Bool :=
  ((compare a.path b.path).then (compare a.reason b.reason)).isLE

/-- A model with an account of the files behind it. -/
structure Ingestion where
  model : Model := .empty
  skipped : List SkippedFile := []
  filesParsed : Nat := 0
  duplicateEntities : Nat := 0

namespace Ingestion

/-- An entity whose name is taken already is counted only. -/
def addEntity (found : Ingestion) (entity : Entity) : Ingestion :=
  if found.model.contains entity.qualifiedName then
    { found with duplicateEntities := found.duplicateEntities + 1 }
  else { found with model := found.model.insert entity }

def add (found : Ingestion) (outcome : FileOutcome) : Ingestion :=
  match outcome with
  | .parsed entities =>
    entities.foldl addEntity { found with filesParsed := found.filesParsed + 1 }
  | .skipped file => { found with skipped := found.skipped ++ [file] }

/-- The model of files, in whatever order they are given. -/
def ofFiles (frontend : Frontend) (config : ParallelConfig) (files : List SourceFile) : Ingestion :=
  let sorted := files.mergeSort fun a b => (compare a.names b.names).isLE
  let found := (FileOutcome.ofFiles frontend config sorted).foldl add {}
  { found with skipped := found.skipped.mergeSort SkippedFile.precedes }

/-- The model of the project at a path, which has to be a directory. -/
def ofProject (config : ParallelConfig) (files : FileSystem) (path : String)
    (frontend : Frontend := .byGrammar) : Except Failure Ingestion :=
  if files.isDirectory path then .ok (ofFiles frontend config (SourceFile.collect files path none))
  else .error (.invalidProjectRoot path)

end Ingestion

end CodeSurvey
