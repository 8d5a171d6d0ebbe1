import CodeSurvey.CommandLine.Scan
import CodeSurvey.Config.Validation

namespace CodeSurvey

namespace CommandLine

inductive Format where
  | text
  | json
  deriving DecidableEq, Inhabited, Repr

/-- Which results are asked for. -/
inductive Scope where
  | dependencies
  | metrics
  | graph
  | patterns
  | all
  deriving DecidableEq, Inhabited, Repr

/-- The options of an analysis. -/
structure AnalysisOptions where
  threshold : Option Float := none
  minBodyLength : Option Nat := none
  noSimilar : Bool := false
  cycles : Option CycleStrategy := none
  threads : Option Nat := none
  noExport : Bool := false
  cache : Bool := false
  patterns : List String := []

inductive Command where
  | analyze (scope : Scope) (project : String) (options : AnalysisOptions)
  | summary (project : String)
  | clearCache (project : String)

structure Invocation where
  command : Command
  /-- The directory for exported results. -/
  output : String := "depsight-report"
  config : Option String := none
  format : Format := .text
  verbose : Bool := false

/-- The options that may stand before and after a command. -/
def commonOptions : List OptionSpec :=
  [{ name := "output", letter := some 'o', kind := .path, environment := some "DEPSIGHT_OUTPUT" },
   { name := "config", letter := some 'c', kind := .path, environment := some "DEPSIGHT_CONFIG" },
   { name := "format", letter := some 'f', kind := .word ["text", "json"] },
   { name := "verbose", letter := some 'v' }]

def helpOption : OptionSpec :=
  { name := "help", letter := some 'h', asks := some .helpAsked }

def versionOption : OptionSpec :=
  { name := "version", letter := some 'V', asks := some .versionAsked }

def analysisOptions : List OptionSpec :=
  [{ name := "threshold", kind := .real, environment := some "DEPSIGHT_THRESHOLD" },
   { name := "min-body-length", kind := .count, environment := some "DEPSIGHT_MIN_BODY_LENGTH" },
   { name := "no-similar" },
   { name := "cycles", kind := .word ["dfs", "complete"], environment := some "DEPSIGHT_CYCLES" },
   { name := "threads", kind := .count, environment := some "DEPSIGHT_THREADS" },
   { name := "no-export" },
   { name := "cache", environment := some "DEPSIGHT_CACHE" },
   { name := "pattern", kind := .text, repeatable := true }]

def projectOperand : OptionSpec :=
  { name := "project", kind := .path }

/-- The commands that run an analysis. -/
def scopes : List (String × Scope) :=
  [("dependency", .dependencies), ("metrics", .metrics), ("graph", .graph), ("patterns", .patterns),
    ("all", .all)]

def commandNames : List String :=
  scopes.map (·.1) ++ ["summary", "clear-cache", "help"]

def topLevel : Level :=
  { options := commonOptions ++ [helpOption, versionOption], commands := commandNames }

def commandLevel (options : List OptionSpec) : Level :=
  { options := options ++ commonOptions ++ [helpOption], operand := some projectOperand }

abbrev Settings := NameMap Setting

namespace Settings

def first? (settings : Settings) (name : String) : Option Value :=
  (settings.get? name).bind fun setting => setting.values.head?

def text? (settings : Settings) (name : String) : Option String :=
  match settings.first? name with
  | some (.text value) => some value
  | _ => none

def flag (settings : Settings) (name : String) : Bool :=
  match settings.first? name with
  | some (.flag on) => on
  | _ => false

def real? (settings : Settings) (name : String) : Option Float :=
  match settings.first? name with
  | some (.real value) => some value
  | _ => none

def count? (settings : Settings) (name : String) : Option Nat :=
  match settings.first? name with
  | some (.count value) => some value
  | _ => none

def texts (settings : Settings) (name : String) : List String :=
  match settings.get? name with
  | some setting => setting.values.filterMap fun
    | .text value => some value
    | _ => none
  | none => []

/-- What is given before the command holds, unless the option is given after it as well; what is typed
on either side counts more than the environment. -/
def merge (before after : Settings) : Settings :=
  before.foldl (fun found name setting =>
    match found.get? name with
    | some inner => if setting.typed && !inner.typed then found.insert name setting else found
    | none => found.insert name setting) after

end Settings

def strategy? (word : String) : Option CycleStrategy :=
  if word == "complete" then some .complete else if word == "dfs" then some .dfs else none

def AnalysisOptions.ofSettings (settings : Settings) : AnalysisOptions where
  threshold := settings.real? "threshold"
  minBodyLength := settings.count? "min-body-length"
  noSimilar := settings.flag "no-similar"
  cycles := (settings.text? "cycles").bind strategy?
  threads := settings.count? "threads"
  noExport := settings.flag "no-export"
  cache := settings.flag "cache"
  patterns := settings.texts "pattern"

def Command.ofSettings (name : String) (settings : Settings) : Command :=
  let project := (settings.text? "project").getD "."
  match scopes.lookup name with
  | some scope => .analyze scope project (.ofSettings settings)
  | none => if name == "summary" then .summary project else .clearCache project

def Invocation.ofSettings (name : String) (settings : Settings) : Invocation where
  command := .ofSettings name settings
  output := (settings.text? "output").getD "depsight-report"
  config := settings.text? "config"
  format := if settings.text? "format" == some "json" then .json else .text
  verbose := settings.flag "verbose"

/-- Help on a command, which has to be one of those there are. -/
def helpOn : List String → Problem
  | [] => .helpAsked
  | [name] => if commandNames.contains name then .helpAsked else .unknownCommand
  | _ => .unknownCommand

/-- The settings of a command from the words after its name. -/
def readCommand (environment : NameMap String) (name : String) (words : List String) :
    Except Problem Settings := do
  let level := commandLevel (if (scopes.lookup name).isSome then analysisOptions else [])
  let (scan, _) ← Scan.words level {} words
  scan.settings level environment

/-- Reads the words of a command line, without the name of the program. -/
def Invocation.read (environment : NameMap String) (words : List String) :
    Except Problem Invocation := do
  let (scan, command) ← Scan.words topLevel {} words
  match command with
  | none =>
    let settings ← scan.settings topLevel environment
    throw (if settings.isEmpty then .nothingGiven else .missingCommand)
  | some ("help", rest) => throw (helpOn rest)
  | some (name, rest) =>
    let after ← readCommand environment name rest
    let before ← scan.settings topLevel environment
    return .ofSettings name (Settings.merge before after)

/-- The configuration with what the options say. -/
def AnalysisOptions.apply (options : AnalysisOptions) (config : Config) : Except ConfigError Config :=
  { config with
    duplication :=
      { similarityThreshold := options.threshold.getD config.duplication.similarityThreshold
        minBodyLength := options.minBodyLength.getD config.duplication.minBodyLength
        detectSimilar := !options.noSimilar && config.duplication.detectSimilar }
    cycles := { config.cycles with strategy := options.cycles.getD config.cycles.strategy }
    parallel := { config.parallel with threads := options.threads.getD config.parallel.threads }
    patterns :=
      if options.patterns.isEmpty then config.patterns else ⟨options.patterns⟩ : Config }.validate

end CommandLine

end CodeSurvey
