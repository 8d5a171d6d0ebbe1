import CodeSurvey.Analysis.Basic
import CodeSurvey.Entity.Json
import CodeSurvey.Summary

namespace CodeSurvey

/-- A name with a figure. -/
def pairJson (write : α → Json) (pair : String × α) : Json :=
  .arr [.str pair.1, write pair.2]

/-- Sets of names by name. -/
def namesByName (sets : NameMap NameSet) : Json :=
  Json.map sets Json.set

/-- Counts by name. -/
def countsByName (counts : NameMap Nat) : Json :=
  Json.map counts Json.nat

def Coupling.toJson (c : Coupling) : Json :=
  .obj [("entity", .str c.entity), ("afferent", .nat c.afferent), ("efferent", .nat c.efferent),
    ("instability", .real c.instability), ("band", .str c.band.text)]

def CouplingReport.toJson (report : CouplingReport) : Json :=
  .obj [("entities", Json.map report.entities Coupling.toJson),
    ("high_coupling", Json.list report.highCoupling (pairJson Json.nat)),
    ("most_unstable", Json.list report.mostUnstable (pairJson Json.real))]

def CycleReport.toJson (report : CycleReport) : Json :=
  .obj ([("strategy", .str report.strategy.text), ("cycles", Json.list report.cycles Json.strings),
    ("self_loops", Json.strings report.selfLoops)] ++
    if report.truncated then [("truncated", .bool true)] else [])

def GraphDiagnostics.toJson (d : GraphDiagnostics) : Json :=
  .obj ([("unresolved_calls", .nat d.unresolvedCalls), ("dropped_references", .nat d.droppedReferences)]
    ++ listEntry "skipped_files" d.skippedFiles SkippedFile.toJson)

def Edge.toJson (edge : Edge) : Json :=
  .obj [("source", .str edge.source), ("target", .str edge.target), ("kind", .str edge.kind.text)]

def DependencyGraph.toJson (graph : DependencyGraph) : Json :=
  .obj [("class_dependencies", namesByName graph.classDependencies),
    ("method_calls", namesByName graph.methodCalls),
    ("field_references", namesByName graph.fieldReferences),
    ("package_dependencies", namesByName graph.packageDependencies),
    ("edges", Json.list graph.edges.toList Edge.toJson),
    ("call_counts", countsByName graph.callCounts),
    ("callers", namesByName graph.callers),
    ("usage_counts", countsByName graph.usageCounts),
    ("diagnostics", graph.diagnostics.toJson)]

def DependencyResult.toJson (result : DependencyResult) : Json :=
  .obj [("graph", result.graph.toJson), ("coupling", result.coupling.toJson),
    ("cycles", result.cycles.toJson), ("unused_classes", Json.strings result.unusedClasses),
    ("unused_methods", Json.strings result.unusedMethods)]

def ClassMetrics.toJson (m : ClassMetrics) : Json :=
  .obj [("entity", .str m.entity), ("method_count", .nat m.methodCount),
    ("field_count", .nat m.fieldCount), ("complexity", .nat m.complexity),
    ("afferent_coupling", .nat m.afferentCoupling), ("efferent_coupling", .nat m.efferentCoupling),
    ("lack_of_cohesion", .real m.lackOfCohesion),
    ("maintainability_index", .real m.maintainabilityIndex), ("lines_of_code", .nat m.linesOfCode),
    ("usage_count", .nat m.usageCount)]

def MethodUsage.toJson (usage : MethodUsage) : Json :=
  .obj [("method", .str usage.method), ("call_count", .nat usage.callCount),
    ("callers", Json.set usage.callers), ("level", .str usage.level.text)]

def ProjectMetrics.toJson (m : ProjectMetrics) : Json :=
  .obj [("total_classes", .nat m.totalClasses), ("total_methods", .nat m.totalMethods),
    ("total_lines_of_code", .nat m.totalLinesOfCode), ("average_complexity", .real m.averageComplexity),
    ("average_maintainability", .real m.averageMaintainability),
    ("duplication_ratio", .real m.duplicationRatio), ("code_reuse", .real m.codeReuse),
    ("unused_methods", .nat m.unusedMethods), ("unused_classes", .nat m.unusedClasses),
    ("technical_debt", .real m.technicalDebt)]

def DuplicationGroup.toJson (group : DuplicationGroup Float) : Json :=
  .obj [("kind", .str group.kind.text), ("members", Json.strings group.members),
    ("line_count", .nat group.lineCount), ("similarity", .real group.similarity),
    ("impact", .real group.impact)]

def Risk.toJson (risk : Risk) : Json :=
  .obj [("level", .str risk.level.text), ("category", .str risk.category),
    ("description", .str risk.description), ("mitigation", .str risk.mitigation)]

def Health.toJson (health : Health) : Json :=
  .obj [("score", .real health.score), ("grade", .str health.grade.text),
    ("recommendations", Json.strings health.recommendations),
    ("risks", Json.list health.risks Risk.toJson)]

def MetricsResult.toJson (result : MetricsResult) : Json :=
  .obj [("classes", Json.list result.classes ClassMetrics.toJson), ("project", result.project.toJson),
    ("duplicates", Json.list result.duplicates DuplicationGroup.toJson),
    ("method_usage", Json.list result.methodUsage MethodUsage.toJson),
    ("most_used_classes", Json.list result.mostUsedClasses (pairJson Json.nat)),
    ("health", result.health.toJson)]

def GraphMetrics.toJson (m : GraphMetrics) : Json :=
  .obj [("node_count", .nat m.nodeCount), ("edge_count", .nat m.edgeCount), ("density", .real m.density),
    ("circular_dependencies", .nat m.circularDependencies)]

def GraphResult.toJson (result : GraphResult) : Json :=
  .obj [("metrics", result.metrics.toJson), ("topological_order", Json.strings result.topologicalOrder),
    ("edges", Json.list result.edges Edge.toJson),
    ("package_dependencies", namesByName result.packageDependencies)]

def PatternMatch.toJson (m : PatternMatch) : Json :=
  .obj [("pattern", .str m.pattern), ("element", .str m.element), ("simple_name", .str m.simpleName),
    ("kind", .str m.kind.text), ("file_path", .str m.filePath)]

def PatternSearch.toJson (search : PatternSearch) : Json :=
  .obj [("matches", Json.map search.found fun found => Json.list found PatternMatch.toJson)]

def Timing.toJson (timing : Timing) : Json :=
  .obj [("parse_ms", .nat timing.parse), ("analysis_ms", .nat timing.analysis),
    ("total_ms", .nat timing.total)]

def Analysis.toJson (analysis : Analysis) : Json :=
  .obj [("schema_version", .str analysis.schemaVersion), ("project_root", .str analysis.projectRoot),
    ("generated_at", .str analysis.generatedAt), ("files_parsed", .nat analysis.filesParsed),
    ("dependencies", analysis.dependencies.toJson), ("metrics", analysis.metrics.toJson),
    ("graph", analysis.graph.toJson), ("patterns", analysis.patterns.toJson),
    ("diagnostics", analysis.diagnostics.toJson), ("timing", analysis.timing.toJson)]

def Summary.toJson (summary : Summary) : Json :=
  .obj [("project_root", .str summary.projectRoot), ("total_entities", .nat summary.totalEntities),
    ("entities_by_kind", countsByName summary.entitiesByKind), ("total_methods", .nat summary.totalMethods),
    ("total_fields", .nat summary.totalFields), ("total_lines_of_code", .nat summary.totalLinesOfCode),
    ("packages", countsByName summary.packages), ("files_parsed", .nat summary.filesParsed),
    ("files_skipped", .nat summary.filesSkipped)]

end CodeSurvey
