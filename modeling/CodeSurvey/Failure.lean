import CodeSurvey.Decimal.Shortest
import CodeSurvey.Pattern

namespace CodeSurvey

/-- Why a file could not be read or written. -/
inductive FileError where
  | notFound
  | alreadyExists
  | notDirectory
  | isDirectory
  | notText
  /-- any other, with the system's own words -/
  | other (message : String)
  deriving DecidableEq, Inhabited, Repr

def FileError.message : FileError → String
  | notFound => "No such file or directory (os error 2)"
  | alreadyExists => "File exists (os error 17)"
  | notDirectory => "Not a directory (os error 20)"
  | isDirectory => "Is a directory (os error 21)"
  | notText => "stream did not contain valid UTF-8"
  | other message => message

/-- Why a configuration is refused. -/
inductive ConfigError where
  | unreadable (path : String) (cause : FileError)
  | malformed
  | similarityThreshold (value : Float)
  | stabilityBands
  | unknownPattern (name : String)

def ConfigError.message : ConfigError → String
  | unreadable path cause => "cannot read " ++ path ++ ": " ++ cause.message
  | malformed => "malformed configuration"
  | similarityThreshold value =>
    "similarity_threshold must be within [0, 1], got " ++ Decimal.shortest value
  | stabilityBands => "stability_bands must be ascending values within [0, 1]"
  | unknownPattern name =>
    "unknown pattern '" ++ name ++ "' (expected one of " ++
      ", ".intercalate (Pattern.all.map (·.name)) ++ ")"

inductive Failure where
  | invalidProjectRoot (path : String)
  | emptyProject (path : String)
  | unsupportedLanguage (ext : String)
  | config (cause : ConfigError)
  | io (cause : FileError)
  | json

namespace Failure

def message : Failure → String
  | invalidProjectRoot path => "Invalid project root: " ++ path
  | emptyProject path => "No analyzable entities found in project: " ++ path
  | unsupportedLanguage ext => "Unsupported language for extension: " ++ ext
  | config cause => "Configuration error: " ++ cause.message
  | io cause => "IO error: " ++ cause.message
  | json => "JSON error: malformed data"

/-- The exit status: 2 for a mistake in the configuration, 1 for a failed run. -/
def exitStatus : Failure → Nat
  | config _ => 2
  | _ => 1

end Failure

end CodeSurvey
