import CodeSurvey.Analysis.Decode
import CodeSurvey.Analysis.Encode
import CodeSurvey.Proofs.Entity.Json
import CodeSurvey.Proofs.Graph.Footprint

namespace CodeSurvey

open Json Json.Fields

theorem readsBack_real : ReadsBack toReal? .real :=
  fun _ => rfl

theorem readsBack_pair {α : Type} {read : Json → Option α} {write : α → Json} (readsBack : ReadsBack read write) :
    ReadsBack (readPair? read) (pairJson write) := by
  rintro ⟨name, figure⟩
  simp [readPair?, pairJson, toString?, readsBack figure]

theorem readsBack_namesByName : ReadsBack readNamesByName? namesByName :=
  readsBack_set.map

theorem readsBack_countsByName : ReadsBack readCountsByName? countsByName :=
  readsBack_nat.map

theorem StabilityBand.readsBack : ReadsBack (toWord? words) fun band => .str band.text :=
  readsBack_word fun band => by cases band <;> rfl

theorem CycleStrategy.readsBack : ReadsBack (toWord? words) fun strategy => .str strategy.text :=
  readsBack_word fun strategy => by cases strategy <;> rfl

theorem EdgeKind.readsBack : ReadsBack (toWord? words) fun kind => .str kind.text :=
  readsBack_word fun kind => by cases kind <;> rfl

theorem UsageLevel.readsBack : ReadsBack (toWord? words) fun level => .str level.text :=
  readsBack_word fun level => by cases level <;> rfl

theorem DuplicationKind.readsBack : ReadsBack (toWord? words) fun kind => .str kind.text :=
  readsBack_word fun kind => by cases kind <;> rfl

theorem RiskLevel.readsBack : ReadsBack (toWord? words) fun level => .str level.text :=
  readsBack_word fun level => by cases level <;> rfl

theorem HealthGrade.readsBack : ReadsBack (toWord? words) fun grade => .str grade.text :=
  readsBack_word fun grade => by cases grade <;> rfl

theorem ElementKind.readsBack : ReadsBack (toWord? words) fun kind => .str kind.text :=
  readsBack_word fun kind => by
    cases kind with
    | entity kind => cases kind <;> rfl
    | method => rfl

theorem Coupling.readsBack : ReadsBack ofJson? toJson := by
  intro c
  rw [ofJson?, toJson, toFields?_bind]
  rw [required_named readsBack_str c.entity (by simp), required_named readsBack_nat c.afferent (by simp),
    required_named readsBack_nat c.efferent (by simp), required_named readsBack_real c.instability (by simp),
    required_named StabilityBand.readsBack c.band (by simp)]
  rfl

theorem CouplingReport.readsBack : ReadsBack ofJson? toJson := by
  intro report
  rw [ofJson?, toJson, toFields?_bind]
  rw [required_named Coupling.readsBack.map report.entities (by simp),
    required_named (readsBack_pair readsBack_nat).list report.highCoupling (by simp),
    required_named (readsBack_pair readsBack_real).list report.mostUnstable (by simp)]
  rfl

theorem CycleReport.readsBack : ReadsBack ofJson? toJson := by
  intro report
  rw [ofJson?, toJson, toFields?_bind]
  rw [required_named CycleStrategy.readsBack report.strategy (by simp),
    required_named readsBack_strings.list report.cycles (by simp),
    required_named readsBack_strings report.selfLoops (by simp), withDefault_flag report.truncated (by simp)]
  rfl

theorem SkippedFile.readsBack : ReadsBack ofJson? toJson := by
  intro file
  rw [ofJson?, toJson, toFields?_bind]
  rw [required_named readsBack_str file.path (by simp), required_named readsBack_str file.reason (by simp)]
  rfl

theorem GraphDiagnostics.readsBack : ReadsBack ofJson? toJson := by
  intro d
  rw [ofJson?, toJson, toFields?_bind]
  rw [required_named readsBack_nat d.unresolvedCalls (by simp),
    required_named readsBack_nat d.droppedReferences (by simp),
    withDefault_listed SkippedFile.readsBack d.skippedFiles (by simp)]
  rfl

theorem Edge.readsBack : ReadsBack ofJson? toJson := by
  intro edge
  rw [ofJson?, toJson, toFields?_bind]
  rw [required_named readsBack_str edge.source (by simp), required_named readsBack_str edge.target (by simp),
    required_named EdgeKind.readsBack edge.kind (by simp)]
  rfl

theorem EdgeSet.ofList_toList (edges : EdgeSet) : Std.ExtTreeSet.ofList edges.toList Edge.order = edges :=
  Std.ExtTreeSet.ext_mem fun edge => by
    rw [Std.ExtTreeSet.mem_ofList, List.contains_iff_mem, Std.ExtTreeSet.mem_toList]

theorem DependencyGraph.readsBack : ReadsBack ofJson? toJson := by
  intro graph
  rw [ofJson?, toJson, toFields?_bind]
  rw [required_named readsBack_namesByName graph.classDependencies (by simp),
    required_named readsBack_namesByName graph.methodCalls (by simp),
    required_named readsBack_namesByName graph.fieldReferences (by simp),
    required_named readsBack_namesByName graph.packageDependencies (by simp),
    required_named Edge.readsBack.list graph.edges.toList (by simp),
    required_named readsBack_countsByName graph.callCounts (by simp),
    required_named readsBack_namesByName graph.callers (by simp),
    required_named readsBack_countsByName graph.usageCounts (by simp),
    required_named GraphDiagnostics.readsBack graph.diagnostics (by simp)]
  exact congrArg (fun edges => some { graph with edges }) (EdgeSet.ofList_toList graph.edges)

theorem DependencyResult.readsBack : ReadsBack ofJson? toJson := by
  intro result
  rw [ofJson?, toJson, toFields?_bind]
  rw [required_named DependencyGraph.readsBack result.graph (by simp),
    required_named CouplingReport.readsBack result.coupling (by simp),
    required_named CycleReport.readsBack result.cycles (by simp),
    required_named readsBack_strings result.unusedClasses (by simp),
    required_named readsBack_strings result.unusedMethods (by simp)]
  rfl

theorem ClassMetrics.readsBack : ReadsBack ofJson? toJson := by
  intro m
  rw [ofJson?, toJson, toFields?_bind]
  rw [required_named readsBack_str m.entity (by simp), required_named readsBack_nat m.methodCount (by simp),
    required_named readsBack_nat m.fieldCount (by simp), required_named readsBack_nat m.complexity (by simp),
    required_named readsBack_nat m.afferentCoupling (by simp),
    required_named readsBack_nat m.efferentCoupling (by simp),
    required_named readsBack_real m.lackOfCohesion (by simp),
    required_named readsBack_real m.maintainabilityIndex (by simp),
    required_named readsBack_nat m.linesOfCode (by simp), required_named readsBack_nat m.usageCount (by simp)]
  rfl

theorem MethodUsage.readsBack : ReadsBack ofJson? toJson := by
  intro usage
  rw [ofJson?, toJson, toFields?_bind]
  rw [required_named readsBack_str usage.method (by simp), required_named readsBack_nat usage.callCount (by simp),
    required_named readsBack_set usage.callers (by simp),
    required_named UsageLevel.readsBack usage.level (by simp)]
  rfl

theorem ProjectMetrics.readsBack : ReadsBack ofJson? toJson := by
  intro m
  rw [ofJson?, toJson, toFields?_bind]
  rw [required_named readsBack_nat m.totalClasses (by simp), required_named readsBack_nat m.totalMethods (by simp),
    required_named readsBack_nat m.totalLinesOfCode (by simp),
    required_named readsBack_real m.averageComplexity (by simp),
    required_named readsBack_real m.averageMaintainability (by simp),
    required_named readsBack_real m.duplicationRatio (by simp),
    required_named readsBack_real m.codeReuse (by simp), required_named readsBack_nat m.unusedMethods (by simp),
    required_named readsBack_nat m.unusedClasses (by simp),
    required_named readsBack_real m.technicalDebt (by simp)]
  rfl

theorem DuplicationGroup.readsBack : ReadsBack ofJson? toJson := by
  intro group
  rw [ofJson?, toJson, toFields?_bind]
  rw [required_named DuplicationKind.readsBack group.kind (by simp),
    required_named readsBack_strings group.members (by simp),
    required_named readsBack_nat group.lineCount (by simp),
    required_named readsBack_real group.similarity (by simp),
    required_named readsBack_real group.impact (by simp)]
  rfl

theorem Risk.readsBack : ReadsBack ofJson? toJson := by
  intro risk
  rw [ofJson?, toJson, toFields?_bind]
  rw [required_named RiskLevel.readsBack risk.level (by simp), required_named readsBack_str risk.category (by simp),
    required_named readsBack_str risk.description (by simp),
    required_named readsBack_str risk.mitigation (by simp)]
  rfl

theorem Health.readsBack : ReadsBack ofJson? toJson := by
  intro health
  rw [ofJson?, toJson, toFields?_bind]
  rw [required_named readsBack_real health.score (by simp),
    required_named HealthGrade.readsBack health.grade (by simp),
    required_named readsBack_strings health.recommendations (by simp),
    required_named Risk.readsBack.list health.risks (by simp)]
  rfl

theorem MetricsResult.readsBack : ReadsBack ofJson? toJson := by
  intro result
  rw [ofJson?, toJson, toFields?_bind]
  rw [required_named ClassMetrics.readsBack.list result.classes (by simp),
    required_named ProjectMetrics.readsBack result.project (by simp),
    required_named DuplicationGroup.readsBack.list result.duplicates (by simp),
    required_named MethodUsage.readsBack.list result.methodUsage (by simp),
    required_named (readsBack_pair readsBack_nat).list result.mostUsedClasses (by simp),
    required_named Health.readsBack result.health (by simp)]
  rfl

theorem GraphMetrics.readsBack : ReadsBack ofJson? toJson := by
  intro m
  rw [ofJson?, toJson, toFields?_bind]
  rw [required_named readsBack_nat m.nodeCount (by simp), required_named readsBack_nat m.edgeCount (by simp),
    required_named readsBack_real m.density (by simp),
    required_named readsBack_nat m.circularDependencies (by simp)]
  rfl

theorem GraphResult.readsBack : ReadsBack ofJson? toJson := by
  intro result
  rw [ofJson?, toJson, toFields?_bind]
  rw [required_named GraphMetrics.readsBack result.metrics (by simp),
    required_named readsBack_strings result.topologicalOrder (by simp),
    required_named Edge.readsBack.list result.edges (by simp),
    required_named readsBack_namesByName result.packageDependencies (by simp)]
  rfl

theorem PatternMatch.readsBack : ReadsBack ofJson? toJson := by
  intro m
  rw [ofJson?, toJson, toFields?_bind]
  rw [required_named readsBack_str m.pattern (by simp), required_named readsBack_str m.element (by simp),
    required_named readsBack_str m.simpleName (by simp), required_named ElementKind.readsBack m.kind (by simp),
    required_named readsBack_str m.filePath (by simp)]
  rfl

theorem PatternSearch.readsBack : ReadsBack ofJson? toJson := by
  intro search
  rw [ofJson?, toJson, toFields?_bind]
  rw [required_named PatternMatch.readsBack.list.map search.found (by simp)]
  rfl

theorem Timing.readsBack : ReadsBack ofJson? toJson := by
  intro timing
  rw [ofJson?, toJson, toFields?_bind]
  rw [required_named readsBack_nat timing.parse (by simp), required_named readsBack_nat timing.analysis (by simp),
    required_named readsBack_nat timing.total (by simp)]
  rfl

theorem Analysis.readsBack : ReadsBack ofJson? toJson := by
  intro analysis
  rw [ofJson?, toJson, toFields?_bind]
  rw [required_named readsBack_str analysis.schemaVersion (by simp),
    required_named readsBack_str analysis.projectRoot (by simp),
    required_named readsBack_str analysis.generatedAt (by simp),
    required_named readsBack_nat analysis.filesParsed (by simp),
    required_named DependencyResult.readsBack analysis.dependencies (by simp),
    required_named MetricsResult.readsBack analysis.metrics (by simp),
    required_named GraphResult.readsBack analysis.graph (by simp),
    withDefault_given PatternSearch.readsBack {} analysis.patterns (by simp),
    required_named GraphDiagnostics.readsBack analysis.diagnostics (by simp),
    required_named Timing.readsBack analysis.timing (by simp)]
  rfl

end CodeSurvey
