import CodeSurvey.Analysis.Basic
import CodeSurvey.Entity.Json

namespace CodeSurvey

def readPair? (read : Json → Option α) : Json → Option (String × α)
  | .arr [name, value] => do return (← name.toString?, ← read value)
  | _ => none

def readNamesByName? : Json → Option (NameMap NameSet) :=
  Json.toMap? Json.toNameSet?

def readCountsByName? : Json → Option (NameMap Nat) :=
  Json.toMap? Json.toCount?

def StabilityBand.words : List (String × StabilityBand) :=
  [.veryStable, .stable, .balanced, .unstable, .veryUnstable].map fun b => (b.text, b)

def CycleStrategy.words : List (String × CycleStrategy) :=
  [.dfs, .complete].map fun s => (s.text, s)

def EdgeKind.words : List (String × EdgeKind) :=
  [.inherits, .implements, .calls, .referencesField, .instantiates, .referencesType].map fun k =>
    (k.text, k)

def UsageLevel.words : List (String × UsageLevel) :=
  [.unused, .rarely, .occasionally, .frequently, .heavily].map fun l => (l.text, l)

def DuplicationKind.words : List (String × DuplicationKind) :=
  [.exact, .similar].map fun k => (k.text, k)

def RiskLevel.words : List (String × RiskLevel) :=
  [.high, .medium, .low].map fun l => (l.text, l)

def HealthGrade.words : List (String × HealthGrade) :=
  [.a, .b, .c, .d, .f].map fun g => (g.text, g)

def ElementKind.words : List (String × ElementKind) :=
  [.entity .classType, .entity .interfaceType, .entity .enumType, .entity .recordType, .method].map
    fun k => (k.text, k)

def Coupling.ofJson? (value : Json) : Option Coupling := do
  let fields ← value.toFields? 5
  return {
    entity := ← fields.required 0 "entity" Json.toString?
    afferent := ← fields.required 1 "afferent" Json.toCount?
    efferent := ← fields.required 2 "efferent" Json.toCount?
    instability := ← fields.required 3 "instability" Json.toReal?
    band := ← fields.required 4 "band" (Json.toWord? StabilityBand.words) }

def CouplingReport.ofJson? (value : Json) : Option CouplingReport := do
  let fields ← value.toFields? 3
  return {
    entities := ← fields.required 0 "entities" (Json.toMap? Coupling.ofJson?)
    highCoupling := ← fields.required 1 "high_coupling" (Json.toList? (readPair? Json.toCount?))
    mostUnstable := ← fields.required 2 "most_unstable" (Json.toList? (readPair? Json.toReal?)) }

def CycleReport.ofJson? (value : Json) : Option CycleReport := do
  let fields ← value.toFields? 4
  return {
    strategy := ← fields.required 0 "strategy" (Json.toWord? CycleStrategy.words)
    cycles := ← fields.required 1 "cycles" (Json.toList? Json.toStrings?)
    selfLoops := ← fields.required 2 "self_loops" Json.toStrings?
    truncated := ← fields.withDefault 3 "truncated" false Json.toBool? }

def GraphDiagnostics.ofJson? (value : Json) : Option GraphDiagnostics := do
  let fields ← value.toFields? 3
  return {
    unresolvedCalls := ← fields.required 0 "unresolved_calls" Json.toCount?
    droppedReferences := ← fields.required 1 "dropped_references" Json.toCount?
    skippedFiles := ← fields.withDefault 2 "skipped_files" [] (Json.toList? SkippedFile.ofJson?) }

def Edge.ofJson? (value : Json) : Option Edge := do
  let fields ← value.toFields? 3
  return {
    source := ← fields.required 0 "source" Json.toString?
    target := ← fields.required 1 "target" Json.toString?
    kind := ← fields.required 2 "kind" (Json.toWord? EdgeKind.words) }

def DependencyGraph.ofJson? (value : Json) : Option DependencyGraph := do
  let fields ← value.toFields? 9
  return {
    classDependencies := ← fields.required 0 "class_dependencies" readNamesByName?
    methodCalls := ← fields.required 1 "method_calls" readNamesByName?
    fieldReferences := ← fields.required 2 "field_references" readNamesByName?
    packageDependencies := ← fields.required 3 "package_dependencies" readNamesByName?
    edges := .ofList (← fields.required 4 "edges" (Json.toList? Edge.ofJson?)) Edge.order
    callCounts := ← fields.required 5 "call_counts" readCountsByName?
    callers := ← fields.required 6 "callers" readNamesByName?
    usageCounts := ← fields.required 7 "usage_counts" readCountsByName?
    diagnostics := ← fields.required 8 "diagnostics" GraphDiagnostics.ofJson? }

def DependencyResult.ofJson? (value : Json) : Option DependencyResult := do
  let fields ← value.toFields? 5
  return {
    graph := ← fields.required 0 "graph" DependencyGraph.ofJson?
    coupling := ← fields.required 1 "coupling" CouplingReport.ofJson?
    cycles := ← fields.required 2 "cycles" CycleReport.ofJson?
    unusedClasses := ← fields.required 3 "unused_classes" Json.toStrings?
    unusedMethods := ← fields.required 4 "unused_methods" Json.toStrings? }

def ClassMetrics.ofJson? (value : Json) : Option ClassMetrics := do
  let fields ← value.toFields? 10
  return {
    entity := ← fields.required 0 "entity" Json.toString?
    methodCount := ← fields.required 1 "method_count" Json.toCount?
    fieldCount := ← fields.required 2 "field_count" Json.toCount?
    complexity := ← fields.required 3 "complexity" Json.toCount?
    afferentCoupling := ← fields.required 4 "afferent_coupling" Json.toCount?
    efferentCoupling := ← fields.required 5 "efferent_coupling" Json.toCount?
    lackOfCohesion := ← fields.required 6 "lack_of_cohesion" Json.toReal?
    maintainabilityIndex := ← fields.required 7 "maintainability_index" Json.toReal?
    linesOfCode := ← fields.required 8 "lines_of_code" Json.toCount?
    usageCount := ← fields.required 9 "usage_count" Json.toCount? }

def MethodUsage.ofJson? (value : Json) : Option MethodUsage := do
  let fields ← value.toFields? 4
  return {
    method := ← fields.required 0 "method" Json.toString?
    callCount := ← fields.required 1 "call_count" Json.toCount?
    callers := ← fields.required 2 "callers" Json.toNameSet?
    level := ← fields.required 3 "level" (Json.toWord? UsageLevel.words) }

def ProjectMetrics.ofJson? (value : Json) : Option ProjectMetrics := do
  let fields ← value.toFields? 10
  return {
    totalClasses := ← fields.required 0 "total_classes" Json.toCount?
    totalMethods := ← fields.required 1 "total_methods" Json.toCount?
    totalLinesOfCode := ← fields.required 2 "total_lines_of_code" Json.toCount?
    averageComplexity := ← fields.required 3 "average_complexity" Json.toReal?
    averageMaintainability := ← fields.required 4 "average_maintainability" Json.toReal?
    duplicationRatio := ← fields.required 5 "duplication_ratio" Json.toReal?
    codeReuse := ← fields.required 6 "code_reuse" Json.toReal?
    unusedMethods := ← fields.required 7 "unused_methods" Json.toCount?
    unusedClasses := ← fields.required 8 "unused_classes" Json.toCount?
    technicalDebt := ← fields.required 9 "technical_debt" Json.toReal? }

def DuplicationGroup.ofJson? (value : Json) : Option (DuplicationGroup Float) := do
  let fields ← value.toFields? 5
  return {
    kind := ← fields.required 0 "kind" (Json.toWord? DuplicationKind.words)
    members := ← fields.required 1 "members" Json.toStrings?
    lineCount := ← fields.required 2 "line_count" Json.toCount?
    similarity := ← fields.required 3 "similarity" Json.toReal?
    impact := ← fields.required 4 "impact" Json.toReal? }

def Risk.ofJson? (value : Json) : Option Risk := do
  let fields ← value.toFields? 4
  return {
    level := ← fields.required 0 "level" (Json.toWord? RiskLevel.words)
    category := ← fields.required 1 "category" Json.toString?
    description := ← fields.required 2 "description" Json.toString?
    mitigation := ← fields.required 3 "mitigation" Json.toString? }

def Health.ofJson? (value : Json) : Option Health := do
  let fields ← value.toFields? 4
  return {
    score := ← fields.required 0 "score" Json.toReal?
    grade := ← fields.required 1 "grade" (Json.toWord? HealthGrade.words)
    recommendations := ← fields.required 2 "recommendations" Json.toStrings?
    risks := ← fields.required 3 "risks" (Json.toList? Risk.ofJson?) }

def MetricsResult.ofJson? (value : Json) : Option MetricsResult := do
  let fields ← value.toFields? 6
  return {
    classes := ← fields.required 0 "classes" (Json.toList? ClassMetrics.ofJson?)
    project := ← fields.required 1 "project" ProjectMetrics.ofJson?
    duplicates := ← fields.required 2 "duplicates" (Json.toList? DuplicationGroup.ofJson?)
    methodUsage := ← fields.required 3 "method_usage" (Json.toList? MethodUsage.ofJson?)
    mostUsedClasses := ←
      fields.required 4 "most_used_classes" (Json.toList? (readPair? Json.toCount?))
    health := ← fields.required 5 "health" Health.ofJson? }

def GraphMetrics.ofJson? (value : Json) : Option GraphMetrics := do
  let fields ← value.toFields? 4
  return {
    nodeCount := ← fields.required 0 "node_count" Json.toCount?
    edgeCount := ← fields.required 1 "edge_count" Json.toCount?
    density := ← fields.required 2 "density" Json.toReal?
    circularDependencies := ← fields.required 3 "circular_dependencies" Json.toCount? }

def GraphResult.ofJson? (value : Json) : Option GraphResult := do
  let fields ← value.toFields? 4
  return {
    metrics := ← fields.required 0 "metrics" GraphMetrics.ofJson?
    topologicalOrder := ← fields.required 1 "topological_order" Json.toStrings?
    edges := ← fields.required 2 "edges" (Json.toList? Edge.ofJson?)
    packageDependencies := ← fields.required 3 "package_dependencies" readNamesByName? }

def PatternMatch.ofJson? (value : Json) : Option PatternMatch := do
  let fields ← value.toFields? 5
  return {
    pattern := ← fields.required 0 "pattern" Json.toString?
    element := ← fields.required 1 "element" Json.toString?
    simpleName := ← fields.required 2 "simple_name" Json.toString?
    kind := ← fields.required 3 "kind" (Json.toWord? ElementKind.words)
    filePath := ← fields.required 4 "file_path" Json.toString? }

def PatternSearch.ofJson? (value : Json) : Option PatternSearch := do
  let fields ← value.toFields? 1
  return ⟨← fields.required 0 "matches" (Json.toMap? (Json.toList? PatternMatch.ofJson?))⟩

def Timing.ofJson? (value : Json) : Option Timing := do
  let fields ← value.toFields? 3
  return {
    parse := ← fields.required 0 "parse_ms" Json.toCount?
    analysis := ← fields.required 1 "analysis_ms" Json.toCount?
    total := ← fields.required 2 "total_ms" Json.toCount? }

def Analysis.ofJson? (value : Json) : Option Analysis := do
  let fields ← value.toFields? 10
  return {
    schemaVersion := ← fields.required 0 "schema_version" Json.toString?
    projectRoot := ← fields.required 1 "project_root" Json.toString?
    generatedAt := ← fields.required 2 "generated_at" Json.toString?
    filesParsed := ← fields.required 3 "files_parsed" Json.toCount?
    dependencies := ← fields.required 4 "dependencies" DependencyResult.ofJson?
    metrics := ← fields.required 5 "metrics" MetricsResult.ofJson?
    graph := ← fields.required 6 "graph" GraphResult.ofJson?
    patterns := ← fields.withDefault 7 "patterns" {} PatternSearch.ofJson?
    diagnostics := ← fields.required 8 "diagnostics" GraphDiagnostics.ofJson?
    timing := ← fields.required 9 "timing" Timing.ofJson? }

end CodeSurvey
