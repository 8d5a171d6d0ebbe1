import CodeSurvey.Graph.Cycles
import CodeSurvey.Proofs.Coupling
import CodeSurvey.Proofs.Graph.Dependency
import CodeSurvey.Proofs.Graph.Strategies
import CodeSurvey.Unused

namespace CodeSurvey

/-- All references in the code of an entity, within its members and outside them. -/
def Entity.codeReferences (entity : Entity) : List Reference :=
  entity.members.flatMap (·.references) ++ entity.references

theorem Entity.coded_mem_occurrences {entity : Entity} {reference : Reference} :
    .coded reference ∈ entity.occurrences ↔ reference ∈ entity.codeReferences := by
  simp [Entity.occurrences, Entity.codeReferences, Member.occurrences]

namespace DependencyGraph

variable {model : Model}

theorem getD_callCounts (model : Model) (call : String) :
    (build model).callCounts.getD call 0 =
      model.occurrences.countP (Occurrence.Calls (Resolver.ofModel model) call) +
        model.occurrences.countP (Occurrence.Creates (Resolver.ofModel model) call) := by
  rw [Std.ExtTreeMap.getD_eq_getD_getElem?, getElem?_callCounts]
  dsimp only
  split
  · next zero => rw [zero, Option.getD_none]
  · rw [Option.getD_some]

theorem callCounts_eq_zero_iff {call : String} :
    (build model).callCounts.getD call 0 = 0 ↔
      ∀ entity ∈ model.toList, ∀ o ∈ entity.occurrences,
        ¬o.Calls (Resolver.ofModel model) call ∧ ¬o.Creates (Resolver.ofModel model) call := by
  rw [getD_callCounts, Nat.add_eq_zero_iff, List.countP_eq_zero, List.countP_eq_zero]
  simp only [Model.occurrences, List.mem_flatMap, decide_eq_true_eq]
  constructor
  · rintro ⟨uncalled, uncreated⟩ entity inside o occurs
    exact ⟨uncalled o ⟨entity, inside, occurs⟩, uncreated o ⟨entity, inside, occurs⟩⟩
  · intro neither
    exact ⟨fun o ⟨entity, inside, occurs⟩ => (neither entity inside o occurs).1,
      fun o ⟨entity, inside, occurs⟩ => (neither entity inside o occurs).2⟩

theorem mem_referenced {graph : DependencyGraph} {name : String} :
    name ∈ graph.referenced ↔ ∃ source, graph.classDependencies.Edge source name := by
  rw [referenced, NameSet.mem_foldl_insertMany, NameMap.values_eq_map_toList]
  simp only [Std.ExtTreeSet.not_mem_empty, false_or, List.mem_map, Prod.exists, exists_eq_right,
    Std.ExtTreeMap.mem_toList_iff_getElem?_eq_some, Adjacency.edge_iff]
  constructor
  · rintro ⟨targets, ⟨source, atSource⟩, inside⟩
    exact ⟨source, targets, atSource, inside⟩
  · rintro ⟨source, targets, atSource, inside⟩
    exact ⟨targets, ⟨source, atSource⟩, inside⟩

end DependencyGraph

theorem CycleReport.mem_selfLoopsOf {graph : Adjacency} {name : String} :
    name ∈ selfLoopsOf graph ↔ graph.Edge name name := by
  simp only [selfLoopsOf, List.mem_map, List.mem_filter, Prod.exists,
    Std.ExtTreeMap.mem_toList_iff_getElem?_eq_some, Std.ExtTreeSet.contains_iff_mem, Adjacency.edge_iff]
  constructor
  · rintro ⟨_, targets, ⟨atName, inside⟩, rfl⟩
    exact ⟨targets, atName, inside⟩
  · rintro ⟨targets, atName, inside⟩
    exact ⟨name, targets, ⟨atName, inside⟩, rfl⟩

theorem CycleReport.selfLoops_ofGraph (graph : Adjacency) (config : CycleConfig) :
    (ofGraph graph config).selfLoops = selfLoopsOf graph := by
  unfold ofGraph
  cases config.strategy <;> rfl

theorem CycleReport.isCircuit_of_mem_cycles {graph : Adjacency} {config : CycleConfig} {cycle : List String}
    (reported : cycle ∈ (ofGraph graph config).cycles) : graph.IsCircuit cycle := by
  unfold ofGraph at reported
  cases strategy : config.strategy with
  | dfs =>
    rw [strategy] at reported
    exact Descent.isCircuit_of_mem reported
  | complete =>
    rw [strategy, Circuits.enumerate_eq_take] at reported
    exact (Circuits.mem_listing.mp (List.mem_of_mem_take reported)).1

theorem Text.hasInfix_iff {part text : List Char} : hasInfix part text ↔ part <:+: text := by
  induction text with
  | nil => rw [hasInfix, List.isEmpty_iff, List.infix_nil]
  | cons c rest ih => rw [hasInfix, Bool.or_eq_true, List.isPrefixOf_iff_prefix, ih, List.infix_cons_iff]

namespace EntryPointConfig

/-- A type that is started or managed from outside: it has a public static `main`, the name of a test, a file
in a place for tests, or an annotation of those that are asked for. -/
inductive EntryPoint (config : EntryPointConfig) (entity : Entity) : Prop where
  | main {member : Member} (declared : member ∈ entity.members) (isMethod : member.kind = .method)
      (named : member.name = "main") (isStatic : member.isStatic) (isPublic : member.visibility = .pub)
  | named {ending : String} (configured : ending ∈ config.testSuffixes)
      (ends : ending.toList <:+ entity.name.toList)
  | placed (marked : config.testPathMarker ≠ "")
      (within : config.testPathMarker.toList <:+:
        entity.filePath.toList.map fun c => if c = '\\' then '/' else c)
  | annotated {mark : String} (configured : mark ∈ config.annotations)
      (carried : mark ∈ entity.annotations)

/-- A method that is called from outside: it is named `main` or like a test, belongs to a type that is named
like one, or has an annotation of those that are asked for. -/
inductive EntryMethod (config : EntryPointConfig) (entity : Entity) (method : Member) : Prop where
  | main (named : method.name = "main")
  | mentions (within : "Test".toList <:+: method.name.toList)
  | begins (starts : "test".toList <+: method.name.toList)
  | within {ending : String} (configured : ending ∈ config.testSuffixes)
      (ends : ending.toList <:+ entity.name.toList)
  | annotated {mark : String} (configured : mark ∈ config.methodAnnotations)
      (carried : mark ∈ method.annotations)

variable {config : EntryPointConfig} {entity : Entity}

theorem isTestName_iff {name : String} :
    config.isTestName name ↔ ∃ ending ∈ config.testSuffixes, ending.toList <:+ name.toList := by
  simp only [isTestName, List.any_eq_true, List.isSuffixOf_iff_suffix]

theorem isTestPath_iff {path : String} :
    config.isTestPath path ↔ config.testPathMarker ≠ "" ∧ config.testPathMarker.toList <:+: slashed path := by
  rw [isTestPath, Bool.and_eq_true, Text.hasInfix_iff, Bool.not_eq_true', Bool.eq_false_iff, ne_eq,
    String.isEmpty_iff]

theorem isEntryPoint_iff : config.isEntryPoint entity ↔ config.EntryPoint entity := by
  simp only [isEntryPoint, Bool.or_eq_true, isTestName_iff, isTestPath_iff, List.any_eq_true,
    List.contains_iff_mem]
  constructor
  · rintro (((hasMain | ⟨_, configured, ends⟩) | ⟨marked, within⟩) | ⟨_, configured, carried⟩)
    · obtain ⟨member, declared, isMain⟩ := List.any_eq_true.mp hasMain
      simp only [Member.isMain, Bool.and_eq_true, beq_iff_eq] at isMain
      obtain ⟨⟨⟨isMethod, named⟩, isStatic⟩, isPublic⟩ := isMain
      exact .main declared isMethod named isStatic isPublic
    · exact .named configured ends
    · exact .placed marked within
    · exact .annotated configured carried
  · rintro (⟨declared, isMethod, named, isStatic, isPublic⟩ | ⟨configured, ends⟩ | ⟨marked, within⟩ |
      ⟨configured, carried⟩)
    · refine Or.inl (Or.inl (Or.inl (List.any_eq_true.mpr ⟨_, declared, ?_⟩)))
      simp [Member.isMain, isMethod, named, isStatic, isPublic]
    · exact Or.inl (Or.inl (Or.inr ⟨_, configured, ends⟩))
    · exact Or.inl (Or.inr ⟨marked, within⟩)
    · exact Or.inr ⟨_, configured, carried⟩

theorem isEntryMethod_iff {method : Member} :
    config.isEntryMethod entity method ↔ config.EntryMethod entity method := by
  simp only [isEntryMethod, Bool.or_eq_true, beq_iff_eq, Text.hasInfix_iff, List.isPrefixOf_iff_prefix,
    isTestName_iff, List.any_eq_true, List.contains_iff_mem]
  constructor
  · rintro ((((named | mentions) | begins) | ⟨_, configured, ends⟩) | ⟨_, configured, carried⟩)
    · exact .main named
    · exact .mentions mentions
    · exact .begins begins
    · exact .within configured ends
    · exact .annotated configured carried
  · rintro (named | mentions | begins | ⟨configured, ends⟩ | ⟨configured, carried⟩)
    · exact Or.inl (Or.inl (Or.inl (Or.inl named)))
    · exact Or.inl (Or.inl (Or.inl (Or.inr mentions)))
    · exact Or.inl (Or.inl (Or.inr begins))
    · exact Or.inl (Or.inr ⟨_, configured, ends⟩)
    · exact Or.inr ⟨_, configured, carried⟩

end EntryPointConfig

namespace Unused

variable {model : Model}

theorem mem_declaredMethods {entity : Entity} {method : Member} :
    (entity, method) ∈ declaredMethods model ↔ entity ∈ model.toList ∧ method ∈ entity.methods := by
  simp [declaredMethods]

/-- Overloads share a key, and one that is an entry point keeps it out whatever their order. -/
theorem mem_methods {callCounts : NameMap Nat} {config : EntryPointConfig} {key : String} :
    key ∈ methods model callCounts config ↔
      (∃ entity ∈ model.toList, ∃ method ∈ entity.methods, entity.memberKey method = key) ∧
        (∀ entity ∈ model.toList, ∀ method ∈ entity.methods, entity.memberKey method = key →
          ¬config.EntryMethod entity method) ∧
        callCounts.getD key 0 = 0 := by
  rw [methods, Std.ExtTreeSet.mem_toList, NameSet.mem_eraseMany, NameSet.mem_ofList]
  simp only [List.mem_map, List.mem_filter, Prod.exists, mem_declaredMethods, Bool.and_eq_true,
    Bool.not_eq_true', Bool.eq_false_iff, ne_eq, EntryPointConfig.isEntryMethod_iff, beq_iff_eq, not_exists, not_and]
  constructor
  · rintro ⟨⟨entity, method, ⟨⟨inside, declared⟩, uncalled, _⟩, rfl⟩, unkept⟩
    refine ⟨⟨entity, inside, method, declared, rfl⟩, ?_, uncalled⟩
    intro other otherInside overload otherDeclared same entry
    exact unkept other overload ⟨⟨otherInside, otherDeclared⟩, entry⟩ same
  · rintro ⟨⟨entity, inside, method, declared, rfl⟩, internal, uncalled⟩
    have noEntry := internal entity inside method declared rfl
    refine ⟨⟨entity, method, ⟨⟨inside, declared⟩, uncalled, noEntry⟩, rfl⟩, ?_⟩
    rintro other overload ⟨⟨otherInside, otherDeclared⟩, entry⟩ same
    exact internal other otherInside overload otherDeclared same entry

theorem methods_ascending (model : Model) (callCounts : NameMap Nat) (config : EntryPointConfig) :
    (methods model callCounts config).Pairwise (· < ·) :=
  NameSet.toList_ascending _

/-- A key of methods none of which is an entry point, and that no reference in the code calls: neither as
a member of the entity that it leads to, nor as the constructor of one that it creates. -/
structure Uncalled (model : Model) (config : EntryPointConfig) (key : String) : Prop where
  declared : ∃ entity ∈ model.toList, ∃ method ∈ entity.methods, entity.memberKey method = key
  internal : ∀ entity ∈ model.toList, ∀ method ∈ entity.methods, entity.memberKey method = key →
    ¬config.EntryMethod entity method
  notCalled : ∀ entity ∈ model.toList, ∀ reference ∈ entity.codeReferences, reference.kind = .methodCall →
    ∀ target, (Occurrence.coded reference).target (Resolver.ofModel model) = some target →
      target ++ "." ++ reference.member.getD "" ≠ key
  notCreated : ∀ entity ∈ model.toList, ∀ reference ∈ entity.codeReferences,
    reference.kind = .instantiation →
      ∀ target, (Occurrence.coded reference).target (Resolver.ofModel model) = some target →
        target ++ "." ++ constructorName ≠ key

theorem mem_methods_build {config : EntryPointConfig} {key : String} :
    key ∈ methods model (DependencyGraph.build model).callCounts config ↔ Uncalled model config key := by
  rw [mem_methods, DependencyGraph.callCounts_eq_zero_iff]
  constructor
  · rintro ⟨declared, internal, neither⟩
    refine ⟨declared, internal, ?_, ?_⟩
    · intro entity inside reference occurs call target leads same
      have uncalled := (neither entity inside _ (Entity.coded_mem_occurrences.mpr occurs)).1
      exact uncalled ⟨congrArg some call, target, leads, same⟩
    · intro entity inside reference occurs creation target leads same
      have uncreated := (neither entity inside _ (Entity.coded_mem_occurrences.mpr occurs)).2
      exact uncreated ⟨congrArg some creation, target, leads, same⟩
  · rintro ⟨declared, internal, notCalled, notCreated⟩
    refine ⟨declared, internal, fun entity inside o occurs => ?_⟩
    cases o with
    | declared kind name =>
      constructor
      · rintro ⟨call, _⟩
        cases call
      · rintro ⟨creation, _⟩
        cases creation
    | coded reference =>
      have coded := Entity.coded_mem_occurrences.mp occurs
      constructor
      · rintro ⟨call, target, leads, same⟩
        exact notCalled entity inside reference coded (Option.some.inj call) target leads same
      · rintro ⟨creation, target, leads, same⟩
        exact notCreated entity inside reference coded (Option.some.inj creation) target leads same

theorem methods_are_uncalled (model : Model) (config : EntryPointConfig) :
    (methods model (DependencyGraph.build model).callCounts config).Pairwise (· < ·) ∧
      ∀ key, key ∈ methods model (DependencyGraph.build model).callCounts config ↔
        Uncalled model config key :=
  ⟨methods_ascending model _ config, fun _ => mem_methods_build⟩

/-- One method calls another, and of two with one key the later is an entry point. -/
def overloads : List Entity :=
  [{ Entity.declare .classType "app" "Service" "" with
      members := [.method "run" "void",
        { Member.method "helper" "void" with references := [.call (some "Service") "run"] },
        .method "start" "int",
        { Member.method "start" "void" with annotations := ["PostConstruct"] }] }]

theorem methods_are_uncalled_overloads :
    methods (.ofList overloads) (DependencyGraph.build (.ofList overloads)).callCounts {} =
        ["app.Service.helper"] ∧
      Uncalled (.ofList overloads) {} "app.Service.helper" ∧
      ¬Uncalled (.ofList overloads) {} "app.Service.start" := by
  have listed : methods (.ofList overloads) (DependencyGraph.build (.ofList overloads)).callCounts {} =
      ["app.Service.helper"] := by
    decide +kernel
  obtain ⟨_, exactly⟩ := methods_are_uncalled (.ofList overloads) {}
  rw [listed] at exactly
  refine ⟨listed, (exactly _).mp (by simp), fun uncalled => ?_⟩
  simpa using (exactly _).mpr uncalled

section Classes

variable {graph : DependencyGraph} {config : EntryPointConfig}

theorem mem_classes (keyed : model.Keyed) {name : String} :
    name ∈ classes model graph config ↔
      ∃ entity, model.get? name = some entity ∧ (∀ source, ¬graph.classDependencies.Edge source name) ∧
        ¬config.EntryPoint entity := by
  simp only [classes, List.mem_map, List.mem_filter, Bool.and_eq_true, Bool.not_eq_true',
    Bool.eq_false_iff, ne_eq, EntryPointConfig.isEntryPoint_iff, Std.ExtTreeSet.contains_iff_mem,
    DependencyGraph.mem_referenced, not_exists]
  constructor
  · rintro ⟨entity, ⟨inside, noEdge, noEntry⟩, rfl⟩
    exact ⟨entity, keyed.get?_of_mem inside, noEdge, noEntry⟩
  · rintro ⟨entity, found, noEdge, noEntry⟩
    have same := keyed name entity found
    subst same
    exact ⟨entity, ⟨Model.mem_toList.mpr ⟨_, found⟩, noEdge, noEntry⟩, rfl⟩

/-- No edge arrives at a listed class. -/
theorem noEdge_of_mem_classes (keyed : model.Keyed) {name : String}
    (listed : name ∈ classes model graph config) (source : String) :
    ¬graph.classDependencies.Edge source name := by
  obtain ⟨_, _, noEdge, _⟩ := (mem_classes keyed).mp listed
  exact noEdge source

theorem not_entryPoint_of_mem_classes (keyed : model.Keyed) {entity : Entity} (inside : entity ∈ model.toList)
    (listed : entity.qualifiedName ∈ classes model graph config) : ¬config.EntryPoint entity := by
  obtain ⟨other, found, _, noEntry⟩ := (mem_classes keyed).mp listed
  cases (keyed.get?_of_mem inside).symm.trans found
  exact noEntry

theorem classes_ascending (keyed : model.Keyed) : (classes model graph config).Pairwise (· < ·) :=
  List.pairwise_map.mpr (keyed.toList_ascending.filter _)

end Classes

theorem exists_uncoupled_iff (keyed : model.Keyed) {name : String} (known : model.contains name)
    (config : CouplingConfig) :
    (∃ coupling, (CouplingReport.ofGraph (DependencyGraph.build model).classDependencies
        config).entities[name]? = some coupling ∧ coupling.afferent = 0) ↔
      ∀ source, ¬(DependencyGraph.build model).classDependencies.Edge source name := by
  have key := (DependencyGraph.mem_classDependencies keyed).mpr known
  obtain ⟨targets, atName⟩ := Option.isSome_iff_exists.mp (Std.ExtTreeMap.mem_iff_isSome_getElem?.mp key)
  have found := CouplingReport.getElem?_entities (DependencyGraph.build model).classDependencies config name
  rw [atName, Option.map_some] at found
  rw [← CouplingReport.afferent_eq_zero_iff found]
  constructor
  · rintro ⟨coupling, recorded, zero⟩
    cases found.symm.trans recorded
    exact zero
  · exact fun zero => ⟨_, found, zero⟩

/-- What the list of unused classes, the coupling and the cycles say of one graph agrees. -/
structure Agrees (model : Model) (graph : DependencyGraph) (config : Config) (unused : List String) : Prop where
  listed : ∀ name, name ∈ unused ↔ ∃ entity, model.get? name = some entity ∧
    (∃ coupling, (CouplingReport.ofGraph graph.classDependencies config.coupling).entities[name]? =
      some coupling ∧ coupling.afferent = 0) ∧
    ¬config.entryPoints.EntryPoint entity
  ascending : unused.Pairwise (· < ·)
  offCycles : ∀ name ∈ unused, ∀ search : CycleConfig,
    ∀ cycle ∈ (CycleReport.ofGraph graph.classDependencies search).cycles, name ∉ cycle
  offSelfLoops : ∀ name ∈ unused, ∀ search : CycleConfig,
    name ∉ (CycleReport.ofGraph graph.classDependencies search).selfLoops
  notMain : ∀ entity ∈ model.toList, ∀ member ∈ entity.members, member.kind = .method →
    member.name = "main" → member.isStatic → member.visibility = .pub → entity.qualifiedName ∉ unused

theorem classes_agree (entities : List Entity) (config : Config) :
    let model := Model.ofList entities
    let graph := DependencyGraph.build model
    Agrees model graph config (classes model graph config.entryPoints) := by
  intro model graph
  have keyed : model.Keyed := Model.ofList_keyed entities
  refine ⟨fun name => ?_, classes_ascending keyed, ?_, ?_, ?_⟩
  · rw [mem_classes keyed]
    refine exists_congr fun entity => and_congr_right fun found => and_congr_left' ?_
    exact (exists_uncoupled_iff keyed (Model.contains_iff_get?.mpr ⟨entity, found⟩) config.coupling).symm
  · intro name listed search cycle reported onCycle
    obtain ⟨source, edge⟩ := (CycleReport.isCircuit_of_mem_cycles reported).exists_edge_to onCycle
    exact noEdge_of_mem_classes keyed listed source edge
  · intro name listed search looping
    rw [CycleReport.selfLoops_ofGraph, CycleReport.mem_selfLoopsOf] at looping
    exact noEdge_of_mem_classes keyed listed name looping
  · intro entity inside member declared isMethod named isStatic isPublic listed
    exact not_entryPoint_of_mem_classes keyed inside listed (.main declared isMethod named isStatic isPublic)

/-- Of two entities that nothing refers to, one can be started; a third refers to itself. -/
def bystanders : List Entity :=
  Resolver.homonyms ++ [.declare .classType "p" "Idle" "",
    { Entity.declare .classType "p" "Start" "" with
      members := [{ Member.method "main" "void" with isStatic := true, visibility := .pub }] }]

theorem classes_agree_bystanders :
    let model := Model.ofList bystanders
    let graph := DependencyGraph.build model
    classes model graph {} = ["p.Idle"] ∧
      (∃ coupling, (CouplingReport.ofGraph graph.classDependencies {}).entities["p.Idle"]? = some coupling ∧
        coupling.afferent = 0) ∧
      (CycleReport.ofGraph graph.classDependencies {}).selfLoops = ["p.A"] ∧
      "p.A" ∉ classes model graph {} := by
  intro model graph
  have listed : classes model graph {} = ["p.Idle"] := by decide +kernel
  have looping : (CycleReport.ofGraph graph.classDependencies {}).selfLoops = ["p.A"] := by decide +kernel
  have agrees : Agrees model graph {} (classes model graph {}) := classes_agree bystanders {}
  obtain ⟨_, _, uncoupled, _⟩ := (agrees.listed "p.Idle").mp (by simp [listed])
  refine ⟨listed, uncoupled, looping, fun unused => ?_⟩
  exact agrees.offSelfLoops "p.A" unused {} (by simp [looping])

end Unused

end CodeSurvey
