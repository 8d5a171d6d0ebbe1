import CodeSurvey.Analysis.Decode
import CodeSurvey.Config.Basic

namespace CodeSurvey

namespace Json

/-- A value as a record of `count` fields. Without `exact`, the items of an array beyond these are ignored. -/
def toRecord? (exact : Bool) (count : Nat) (value : Json) : Option Fields :=
  match exact, value with
  | false, .arr items => toFields? count (.arr (items.take count))
  | _, value => toFields? count value

/-- One of a fixed set of words. Without `exact`, the key of a record may give it, with nothing under
that key. -/
def toChoice? (exact : Bool) (words : List (String × α)) (value : Json) : Option α :=
  match exact, value with
  | false, .obj [(word, .obj [])] | false, .obj [(word, .arr [])] => words.lookup word
  | _, value => toWord? words value

end Json

namespace DuplicationConfig

def toJson (c : DuplicationConfig) : Json :=
  .obj [("similarity_threshold", .real c.similarityThreshold),
    ("min_body_length", .nat c.minBodyLength), ("detect_similar", .bool c.detectSimilar)]

def ofJson? (exact : Bool) (value : Json) : Option DuplicationConfig := do
  let fields ← value.toRecord? exact 3
  let default : DuplicationConfig := {}
  return {
    similarityThreshold := ←
      fields.withDefault 0 "similarity_threshold" default.similarityThreshold Json.toReal?
    minBodyLength := ← fields.withDefault 1 "min_body_length" default.minBodyLength Json.toCount?
    detectSimilar := ← fields.withDefault 2 "detect_similar" default.detectSimilar Json.toBool? }

end DuplicationConfig

namespace StabilityBands

def toJson (bands : StabilityBands) : Json :=
  .arr [.real bands.first, .real bands.second, .real bands.third, .real bands.fourth]

def ofJson? (exact : Bool) (value : Json) : Option StabilityBands :=
  match exact, value with
  | true, .arr [a, b, c, d] | false, .arr (a :: b :: c :: d :: _) => do
    return ⟨← a.toReal?, ← b.toReal?, ← c.toReal?, ← d.toReal?⟩
  | _, _ => none

end StabilityBands

namespace CouplingConfig

def toJson (c : CouplingConfig) : Json :=
  .obj [("high_coupling_threshold", .nat c.highCouplingThreshold),
    ("unstable_threshold", .real c.unstableThreshold),
    ("most_unstable_limit", .nat c.mostUnstableLimit),
    ("stability_bands", c.stabilityBands.toJson)]

def ofJson? (exact : Bool) (value : Json) : Option CouplingConfig := do
  let fields ← value.toRecord? exact 4
  let default : CouplingConfig := {}
  return {
    highCouplingThreshold := ←
      fields.withDefault 0 "high_coupling_threshold" default.highCouplingThreshold Json.toCount?
    unstableThreshold := ←
      fields.withDefault 1 "unstable_threshold" default.unstableThreshold Json.toReal?
    mostUnstableLimit := ←
      fields.withDefault 2 "most_unstable_limit" default.mostUnstableLimit Json.toCount?
    stabilityBands := ←
      fields.withDefault 3 "stability_bands" default.stabilityBands (StabilityBands.ofJson? exact) }

end CouplingConfig

namespace MetricsConfig

def toJson (c : MetricsConfig) : Json :=
  .obj [("complexity_debt_threshold", .nat c.complexityDebtThreshold),
    ("maintainability_debt_threshold", .real c.maintainabilityDebtThreshold),
    ("method_count_penalty_after", .nat c.methodCountPenaltyAfter),
    ("most_used_limit", .nat c.mostUsedLimit)]

def ofJson? (exact : Bool) (value : Json) : Option MetricsConfig := do
  let fields ← value.toRecord? exact 4
  let default : MetricsConfig := {}
  return {
    complexityDebtThreshold := ←
      fields.withDefault 0 "complexity_debt_threshold" default.complexityDebtThreshold Json.toCount?
    maintainabilityDebtThreshold := ←
      fields.withDefault 1 "maintainability_debt_threshold" default.maintainabilityDebtThreshold
        Json.toReal?
    methodCountPenaltyAfter := ←
      fields.withDefault 2 "method_count_penalty_after" default.methodCountPenaltyAfter Json.toCount?
    mostUsedLimit := ← fields.withDefault 3 "most_used_limit" default.mostUsedLimit Json.toCount? }

end MetricsConfig

namespace EntryPointConfig

def toJson (c : EntryPointConfig) : Json :=
  .obj [("annotations", Json.strings c.annotations),
    ("method_annotations", Json.strings c.methodAnnotations),
    ("test_suffixes", Json.strings c.testSuffixes), ("test_path_marker", .str c.testPathMarker)]

def ofJson? (exact : Bool) (value : Json) : Option EntryPointConfig := do
  let fields ← value.toRecord? exact 4
  let default : EntryPointConfig := {}
  return {
    annotations := ← fields.withDefault 0 "annotations" default.annotations Json.toStrings?
    methodAnnotations := ←
      fields.withDefault 1 "method_annotations" default.methodAnnotations Json.toStrings?
    testSuffixes := ← fields.withDefault 2 "test_suffixes" default.testSuffixes Json.toStrings?
    testPathMarker := ←
      fields.withDefault 3 "test_path_marker" default.testPathMarker Json.toString? }

end EntryPointConfig

namespace CycleConfig

def toJson (c : CycleConfig) : Json :=
  .obj [("strategy", .str c.strategy.text), ("max_cycles", .nat c.maxCycles)]

def ofJson? (exact : Bool) (value : Json) : Option CycleConfig := do
  let fields ← value.toRecord? exact 2
  let default : CycleConfig := {}
  return {
    strategy := ← fields.withDefault 0 "strategy" default.strategy
      (Json.toChoice? exact CycleStrategy.words)
    maxCycles := ← fields.withDefault 1 "max_cycles" default.maxCycles Json.toCount? }

end CycleConfig

namespace ParallelConfig

def toJson (c : ParallelConfig) : Json :=
  .obj [("enabled", .bool c.enabled), ("threads", .nat c.threads)]

def ofJson? (exact : Bool) (value : Json) : Option ParallelConfig := do
  let fields ← value.toRecord? exact 2
  let default : ParallelConfig := {}
  return {
    enabled := ← fields.withDefault 0 "enabled" default.enabled Json.toBool?
    threads := ← fields.withDefault 1 "threads" default.threads Json.toCount? }

end ParallelConfig

namespace PatternConfig

def toJson (c : PatternConfig) : Json :=
  .obj [("enabled", Json.strings c.enabled)]

def ofJson? (exact : Bool) (value : Json) : Option PatternConfig := do
  let fields ← value.toRecord? exact 1
  let default : PatternConfig := {}
  return { enabled := ← fields.withDefault 0 "enabled" default.enabled Json.toStrings? }

end PatternConfig

namespace Config

def toJson (c : Config) : Json :=
  .obj [("duplication", c.duplication.toJson), ("coupling", c.coupling.toJson),
    ("metrics", c.metrics.toJson), ("entry_points", c.entryPoints.toJson), ("cycles", c.cycles.toJson),
    ("parallel", c.parallel.toJson), ("patterns", c.patterns.toJson)]

def ofJson? (exact : Bool) (value : Json) : Option Config := do
  let fields ← value.toRecord? exact 7
  return {
    duplication := ← fields.withDefault 0 "duplication" {} (DuplicationConfig.ofJson? exact)
    coupling := ← fields.withDefault 1 "coupling" {} (CouplingConfig.ofJson? exact)
    metrics := ← fields.withDefault 2 "metrics" {} (MetricsConfig.ofJson? exact)
    entryPoints := ← fields.withDefault 3 "entry_points" {} (EntryPointConfig.ofJson? exact)
    cycles := ← fields.withDefault 4 "cycles" {} (CycleConfig.ofJson? exact)
    parallel := ← fields.withDefault 5 "parallel" {} (ParallelConfig.ofJson? exact)
    patterns := ← fields.withDefault 6 "patterns" {} (PatternConfig.ofJson? exact) }

end Config

end CodeSurvey
