import CodeSurvey.Analysis.Basic
import CodeSurvey.Decimal.Fixed
import CodeSurvey.Summary

namespace CodeSurvey

namespace Report

/-- A line of a report. -/
def line (text : String) : String := text ++ "\n"

def lines (texts : List String) : String :=
  String.join (texts.map line)

/-- The rule under which a section stands: its title within a line of fixed length. -/
def heading (title : String) : String :=
  "── " ++ title ++ " " ++ String.ofList (List.replicate (65 - title.length) '─')

/-- A number at the right end of its column. -/
def column (width n : Nat) : String :=
  Decimal.padStart width ' ' (toString n)

def columnFixed (width places : Nat) (x : Float) : String :=
  Decimal.padStart width ' ' (Decimal.fixed places x)

/-- A text at the left end of its column. -/
def cell (width : Nat) (text : String) : String :=
  Decimal.padEnd width ' ' text

/-- A label and a figure; the figures of all such lines are in one column. -/
def figure (label value : String) : String :=
  "  " ++ cell 19 (label ++ ":") ++ value

def count (label : String) (n : Nat) : String :=
  figure label (column 6 n)

def nameCell (width : Nat) (name : String) : String :=
  cell width (Name.abbreviate name width)

def banner : List String :=
  ["╔══════════════════════════════════════════════════════════════════╗",
    "║                   DEPENDENCY ANALYSIS REPORT                     ║",
    "╚══════════════════════════════════════════════════════════════════╝",
    ""]

def healthLine (health : Health) : String :=
  figure "Health" (columnFixed 6 1 health.score ++ " (" ++ health.grade.text ++ ")")

def overview (metrics : MetricsResult) : List String :=
  let project := metrics.project
  [heading "OVERVIEW",
    count "Entities" project.totalClasses,
    count "Methods" project.totalMethods,
    count "Lines of Code" project.totalLinesOfCode,
    figure "Avg Complexity" (columnFixed 6 1 project.averageComplexity),
    figure "Avg Maintain." (columnFixed 6 1 project.averageMaintainability),
    figure "Technical Debt" (columnFixed 6 0 project.technicalDebt),
    healthLine metrics.health,
    ""]

def couplingLine (c : Coupling) : String :=
  "  " ++ nameCell 40 c.entity ++ " " ++ column 4 c.afferent ++ "  " ++ column 4 c.efferent ++ "   " ++
    columnFixed 5 2 c.instability ++ " " ++ c.band.text

def highCouplingLine (entry : String × Nat) : String :=
  "    " ++ nameCell 40 entry.1 ++ s!" ({entry.2} dependencies)"

def coupling (report : CouplingReport) : List String :=
  let ranked := Ranking.sort (fun (c : Coupling) => c.afferent + c.efferent) (·.entity)
    report.entities.values
  [heading "COUPLING",
    "  Entity                                     Ca    Ce   Instability",
    "  ─────────────────────────────────────────────────────────────────"] ++
  (ranked.take 15).map couplingLine ++ [""] ++
  if report.highCoupling.isEmpty then []
  else ["  High Coupling (many outgoing dependencies):"] ++
    (report.highCoupling.take 5).map highCouplingLine ++ [""]

def cycleLine (cycle : List String) : String :=
  "  ⚠ " ++ " → ".intercalate cycle ++ " → " ++ cycle.headD ""

def cycles (report : CycleReport) : List String :=
  let more := report.cycles.length - 5
  if report.cycles.isEmpty && report.selfLoops.isEmpty then []
  else
    [heading "CIRCULAR DEPENDENCIES"] ++ (report.cycles.take 5).map cycleLine ++
    (if 0 < more then [s!"  ... and {more} more"] else []) ++
    (if report.selfLoops.isEmpty then [] else [s!"  Self-references: {report.selfLoops.length}"]) ++
    [""]

def groupLabel (group : DuplicationGroup Float) : String :=
  match group.kind with
  | .exact => "exact"
  | .similar => "similar " ++ Decimal.fixed 0 (group.similarity * 100.0) ++ "%"

def groupLines (group : DuplicationGroup Float) : List String :=
  ("  [" ++ groupLabel group ++ s!"] {group.members.length} methods, {group.lineCount} lines, impact " ++
    Decimal.fixed 1 group.impact) ::
  group.members.map fun member => "    " ++ Name.truncateMarked member 60

def duplication (metrics : MetricsResult) : List String :=
  if metrics.duplicates.isEmpty then []
  else
    [heading "DUPLICATION"] ++ (metrics.duplicates.take 5).flatMap groupLines ++
    ["  Duplication ratio: " ++ Decimal.fixed 1 (metrics.project.duplicationRatio * 100.0) ++ "%", ""]

def unused (result : DependencyResult) : List String :=
  [heading "UNUSED CODE", s!"  Unused classes: {result.unusedClasses.length}"] ++
  (result.unusedClasses.take 10).map ("    " ++ ·) ++
  [s!"  Unused methods: {result.unusedMethods.length}", ""]

def patternLine (entry : String × List PatternMatch) : String :=
  "  " ++ cell 18 entry.1 ++ " " ++ column 6 entry.2.length

def patterns (search : PatternSearch) : List String :=
  if search.total = 0 then []
  else
    [heading "PATTERNS"] ++
    (search.found.toList.filter fun e => !e.2.isEmpty).map patternLine ++ [""]

def recommendations (health : Health) : List String :=
  if health.recommendations.isEmpty then []
  else [heading "RECOMMENDATIONS"] ++ health.recommendations.map ("  • " ++ ·) ++ [""]

def diagnostics (d : GraphDiagnostics) : List String :=
  if 0 < d.unresolvedCalls || 0 < d.droppedReferences || !d.skippedFiles.isEmpty then
    [s!"  Diagnostics: {d.unresolvedCalls} unresolved calls, {d.droppedReferences} dropped " ++
      s!"references, {d.skippedFiles.length} skipped files", ""]
  else []

/-- The full report. -/
def analysis (a : Analysis) : String :=
  lines (banner ++ overview a.metrics ++ coupling a.dependencies.coupling ++
    cycles a.dependencies.cycles ++ duplication a.metrics ++ unused a.dependencies ++
    patterns a.patterns ++ recommendations a.metrics.health ++ diagnostics a.diagnostics ++
    [String.ofList (List.replicate 70 '═')])

def summary (s : Summary) : String :=
  lines ([heading "PROJECT SUMMARY", count "Entities" s.totalEntities] ++
    s.entitiesByKind.toList.map (fun (kind, n) => "    " ++ cell 15 kind ++ " " ++ column 6 n) ++
    [count "Methods" s.totalMethods, count "Fields" s.totalFields,
      count "Lines of Code" s.totalLinesOfCode, count "Packages" s.packages.size,
      figure "Files" (column 6 s.filesParsed ++ s!" parsed, {s.filesSkipped} skipped")])

def dependencies (result : DependencyResult) : String :=
  lines ([heading "DEPENDENCIES",
    count "Entities" result.graph.nodeCount,
    count "Dependencies" result.graph.edgeCount,
    count "Packages" result.graph.packageDependencies.size,
    count "Cycles" result.cycles.cycles.length,
    count "Self-references" result.cycles.selfLoops.length,
    count "Unused classes" result.unusedClasses.length,
    count "Unused methods" result.unusedMethods.length] ++
    (if result.coupling.mostUnstable.isEmpty then []
      else ["", "  Most unstable:"] ++ result.coupling.mostUnstable.map fun (name, instability) =>
        "    " ++ nameCell 40 name ++ " " ++ Decimal.fixed 2 instability) ++
    (result.cycles.cycles.take 5).map fun cycle => "  ⚠ cycle: " ++ " → ".intercalate cycle)

def metrics (result : MetricsResult) : String :=
  let project := result.project
  lines ([heading "METRICS",
    count "Classes" project.totalClasses,
    count "Methods" project.totalMethods,
    count "Lines of Code" project.totalLinesOfCode,
    figure "Avg Complexity" (columnFixed 6 1 project.averageComplexity),
    figure "Avg Maintain." (columnFixed 6 1 project.averageMaintainability),
    figure "Duplication" (columnFixed 5 1 (project.duplicationRatio * 100.0) ++ "%"),
    figure "Code Reuse" (columnFixed 5 1 (project.codeReuse * 100.0) ++ "%"),
    figure "Technical Debt" (columnFixed 6 0 project.technicalDebt),
    healthLine result.health] ++
    if result.mostUsedClasses.isEmpty then []
    else ["", "  Most used:"] ++ (result.mostUsedClasses.take 10).map fun (name, n) =>
      "    " ++ nameCell 40 name ++ " " ++ column 4 n)

def graph (result : GraphResult) : String :=
  lines [heading "GRAPH",
    count "Nodes" result.metrics.nodeCount,
    count "Edges" result.metrics.edgeCount,
    figure "Density" (columnFixed 6 3 result.metrics.density),
    count "Cycles" result.metrics.circularDependencies,
    count "Typed edges" result.edges.length]

def matchLine (m : PatternMatch) : String :=
  "    " ++ nameCell 50 m.element ++ " " ++ m.kind.text

def patternLines (entry : String × List PatternMatch) : List String :=
  let more := entry.2.length - 10
  [patternLine entry] ++ (entry.2.take 10).map matchLine ++
    if 0 < more then [s!"    ... and {more} more"] else []

def patternSearch (search : PatternSearch) : String :=
  lines ([heading "PATTERNS"] ++ search.found.toList.flatMap patternLines ++
    [count "Total matches" search.total])

end Report

end CodeSurvey
