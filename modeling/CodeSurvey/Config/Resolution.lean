import CodeSurvey.Config.Toml
import CodeSurvey.Project.FileSystem

namespace CodeSurvey

namespace Config

/-- The name of the configuration file in the root of a project. -/
def fileName : String := "depsight.toml"

def ofFile (files : FileSystem) (path : String) : Except ConfigError Config :=
  match files.readText path with
  | .ok text => ofToml text
  | .error cause => .error (.unreadable path cause)

def resolve (files : FileSystem) (root : String) (explicit : Option String) :
    Except ConfigError Config :=
  match explicit with
  | some path => ofFile files path
  | none =>
    let path := Path.join root fileName
    if files.isFile path then ofFile files path else .ok {}

end Config

end CodeSurvey
