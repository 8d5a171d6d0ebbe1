import CodeSurvey.Config.Json
import CodeSurvey.Config.Validation
import CodeSurvey.Toml.Document

namespace CodeSurvey

/-- The configuration that a text gives, refused when it is malformed or not valid. -/
def Config.ofToml (text : String) : Except ConfigError Config :=
  match (Toml.parse? text).bind (Config.ofJson? false) with
  | some config => config.validate
  | none => .error .malformed

end CodeSurvey
