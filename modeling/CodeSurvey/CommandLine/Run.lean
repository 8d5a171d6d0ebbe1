import CodeSurvey.CommandLine.Invocation
import CodeSurvey.Config.Resolution
import CodeSurvey.Project.Analyzer
import CodeSurvey.Report

namespace CodeSurvey

namespace CommandLine

/-- A result under the name of the file it is exported to. -/
structure Artifact where
  fileName : String
  value : Json

/-- What an analysis gives: the value and the text to print, and what to export. -/
structure Product where
  value : Json
  text : String
  artifacts : List Artifact

/-- Where the caches of all projects are kept. -/
def cacheBase (environment : NameMap String) : String :=
  match environment.get? "XDG_CACHE_HOME", environment.get? "HOME" with
  | some cache, _ => Path.join cache "depsight"
  | none, some home => Path.join (Path.join home ".cache") "depsight"
  | none, none => "/tmp/depsight"

def render (format : Format) (value : Json) (text : String) : String :=
  match format with
  | .json => value.pretty
  | .text => text

def exportOne (directory : String) (files : FileSystem) (artifact : Artifact) :
    Except FileError FileSystem := do
  let files ← files.makeDirectories directory
  files.write (Path.join directory artifact.fileName) artifact.value.pretty.toUTF8 0

/-- What came of exporting: paths written, then the paths that failed and why. -/
structure Exports where
  files : FileSystem
  written : List String := []
  failed : List (String × FileError) := []

def Exports.add (directory : String) (exports : Exports) (artifact : Artifact) : Exports :=
  let target := Path.join directory artifact.fileName
  match exportOne directory exports.files artifact with
  | .ok files => { exports with files, written := exports.written ++ [target] }
  | .error cause => { exports with failed := exports.failed ++ [(target, cause)] }

def Exports.describe (exports : Exports) : String :=
  Report.lines (exports.written.map fun path => "  wrote " ++ path) ++
    Report.lines (exports.failed.map fun (path, cause) =>
      "  export failed: Failed to export " ++ path ++ ": " ++ cause.message)

/-- The output followed by an account of the exports, when there are any. That some failed does not make the
run fail. -/
def withExports (output : String) (exports : Exports) : String :=
  let account := exports.describe
  if account.isEmpty then output else output ++ "\n" ++ account

def single (fileName : String) (value : Json) (text : String) : Product :=
  { value, text, artifacts := [⟨fileName, value⟩] }

def ofAnalysis (analysis : Analysis) : Product where
  value := analysis.toJson
  text := Report.analysis analysis
  artifacts :=
    [⟨"dependencies.json", analysis.dependencies.toJson⟩, ⟨"metrics.json", analysis.metrics.toJson⟩,
      ⟨"graph.json", analysis.graph.toJson⟩, ⟨"patterns.json", analysis.patterns.toJson⟩,
      ⟨"analysis.json", analysis.toJson⟩]

def analyze (analyzer : Analyzer) (files : FileSystem) (project : String) :
    Scope → Except Failure (Product × FileSystem)
  | .dependencies => do
    let result ← analyzer.dependencies files project
    return (single "dependencies.json" result.toJson (Report.dependencies result), files)
  | .metrics => do
    let result ← analyzer.metrics files project
    return (single "metrics.json" result.toJson (Report.metrics result), files)
  | .graph => do
    let result ← analyzer.graph files project
    return (single "graph.json" result.toJson (Report.graph result), files)
  | .patterns => do
    let result ← analyzer.patterns files project
    return (single "patterns.json" result.toJson (Report.patternSearch result), files)
  | .all => do
    let (analysis, _, files) ← analyzer.all files project
    return (ofAnalysis analysis, files)

def configured (files : FileSystem) (invocation : Invocation) (project : String) :
    Except Failure Config :=
  (Config.resolve files project invocation.config).mapError .config

def runAnalysis (environment : NameMap String) (files : FileSystem) (invocation : Invocation)
    (scope : Scope) (project : String) (options : AnalysisOptions) :
    Except Failure (String × FileSystem) := do
  let config ← (options.apply (← configured files invocation project)).mapError Failure.config
  let analyzer : Analyzer :=
    { config, cacheBase := if options.cache then some (cacheBase environment) else none }
  let (product, files) ← analyze analyzer files project scope
  let artifacts := if options.noExport then [] else product.artifacts
  let exports := artifacts.foldl (Exports.add invocation.output) { files }
  return (withExports (render invocation.format product.value product.text) exports, exports.files)

def runSummary (files : FileSystem) (invocation : Invocation) (project : String) :
    Except Failure String := do
  let analyzer : Analyzer := { config := ← configured files invocation project }
  let summary ← analyzer.summary files project
  return render invocation.format summary.toJson (Report.summary summary)

def runClearCache (environment : NameMap String) (files : FileSystem) (format : Format)
    (project : String) : Except Failure (String × FileSystem) := do
  if !files.isDirectory project then throw (.invalidProjectRoot project)
  let cache ← (Cache.ofProject (cacheBase environment) files project).mapError .io
  let existed := files.contains cache.directory
  let size := cache.size files
  let value := Json.obj [("cache_dir", .str cache.directory), ("cleared", .bool existed),
    ("bytes_freed", .nat size)]
  let text :=
    if existed then "Cleared cache at " ++ cache.directory ++ " (" ++ toString size ++ " bytes)"
    else "No cache at " ++ cache.directory
  return (render format value text, cache.clear files)

/-- Carries out an invocation: the output and the file system afterwards. -/
def run (environment : NameMap String) (files : FileSystem) (invocation : Invocation) :
    Except Failure (String × FileSystem) :=
  match invocation.command with
  | .analyze scope project options =>
    runAnalysis environment files invocation scope project options
  | .summary project => do return (← runSummary files invocation project, files)
  | .clearCache project => runClearCache environment files invocation.format project

/-- What a whole run of the program shows, and the file system it leaves. -/
structure Outcome where
  status : Nat := 0
  output : String := ""
  error : Option String := none
  files : FileSystem

def versionText : String := "depsight 0.3.0\n"

def helpText : String :=
  Report.lines
    ["Dependency graph, coupling, cycle, dead-code and duplication analysis",
     "",
     "Usage: depsight [OPTIONS] <COMMAND>",
     "",
     "Commands:",
     "  dependency   Dependency graph, coupling, cycles and unused code",
     "  metrics      Per-class and project metrics, duplication and health",
     "  graph        Graph metrics, topological order and typed edges",
     "  patterns     Singletons, factories, accessors and test classes",
     "  all          Everything above plus a full report",
     "  summary      Entity counts without building the graph",
     "  clear-cache  Delete cached results for a project",
     "  help         Print this message or the help of the given subcommand(s)"]

/-- Help and the version are printed and count as success; other problems end with status 2. -/
def Problem.exitStatus : Problem → Nat
  | .helpAsked | .versionAsked => 0
  | _ => 2

def Problem.output : Problem → String
  | .helpAsked => helpText
  | .versionAsked => versionText
  | _ => ""

/-- A run of the program on the words of its command line. -/
def execute (environment : NameMap String) (files : FileSystem) (words : List String) : Outcome :=
  match Invocation.read environment words with
  | .error problem => { status := problem.exitStatus, output := problem.output, files }
  | .ok invocation =>
    match run environment files invocation with
    | .error failure =>
      { status := failure.exitStatus, error := some ("Error: " ++ failure.message), files }
    | .ok (output, files) => { output := output ++ "\n", files }

end CommandLine

end CodeSurvey
