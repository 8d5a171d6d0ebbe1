import CodeSurvey.Config.Basic
import CodeSurvey.Failure

namespace CodeSurvey

def inUnit (x : Float) : Bool :=
  0.0 ≤ x && x ≤ 1.0

def StabilityBands.isValid (bands : StabilityBands) : Bool :=
  !(bands.first > bands.second || bands.second > bands.third || bands.third > bands.fourth) &&
    inUnit bands.first && inUnit bands.second && inUnit bands.third && inUnit bands.fourth

def Config.validate (config : Config) : Except ConfigError Config :=
  let threshold := config.duplication.similarityThreshold
  if !inUnit threshold then .error (.similarityThreshold threshold)
  else if !config.coupling.stabilityBands.isValid then .error .stabilityBands
  else
    match Pattern.byNames config.patterns.enabled with
    | .ok _ => .ok config
    | .error name => .error (.unknownPattern name)

end CodeSurvey
