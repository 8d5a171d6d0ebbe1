import CodeSurvey.Graph.Footprint
import CodeSurvey.Proofs.NameMap

namespace CodeSurvey

theorem EdgeKind.rank_injective {kind other : EdgeKind} (same : kind.rank = other.rank) : kind = other := by
  revert same
  cases kind <;> cases other <;> decide

namespace Edge

/-- By source, then by target, then by kind. -/
def Before (edge other : Edge) : Prop :=
  edge.source < other.source ∨ edge.source = other.source ∧
    (edge.target < other.target ∨ edge.target = other.target ∧ edge.kind.rank < other.kind.rank)

theorem order_eq_lt {edge other : Edge} : order edge other = .lt ↔ Before edge other := by
  simp only [order, compareLex, compareOn, Ordering.then_eq_lt, compare_lt_iff_lt,
    Std.compare_eq_iff_eq, Before]

instance : Std.LawfulEqCmp order where
  eq_of_compare := by
    intro edge other same
    simp only [order, compareLex, compareOn, Ordering.then_eq_eq, Std.compare_eq_iff_eq] at same
    obtain ⟨source, target, rank⟩ := same
    have kind := EdgeKind.rank_injective rank
    cases edge
    cases other
    simp_all

end Edge

theorem EdgeSet.mem_insert {set : EdgeSet} {edge other : Edge} :
    edge ∈ set.insert other ↔ edge = other ∨ edge ∈ set := by
  rw [Std.ExtTreeSet.mem_insert, Std.LawfulEqCmp.compare_eq_iff_eq, eq_comm]

theorem EdgeSet.toList_ascending (set : EdgeSet) : set.toList.Pairwise Edge.Before :=
  set.ordered_toList.imp Edge.order_eq_lt.mp

theorem EdgeSet.toList_nodup (set : EdgeSet) : set.toList.Nodup :=
  set.distinct_toList.imp fun different same => different (Std.LawfulEqCmp.compare_eq_iff_eq.mpr same)

/-- A place where an entity names another: a name in its declaration, with the use that it makes, or
a reference in its code. -/
inductive Occurrence where
  | declared (kind : EdgeKind) (name : String)
  | coded (reference : Reference)

namespace Occurrence

/-- The entity that the occurrence leads to, if any. -/
def target (resolver : Resolver) : Occurrence → Option String
  | declared _ name => resolver.resolve name none
  | coded reference => reference.target.bind fun written => resolver.resolve written reference.resolved

/-- What a reference in the code is; a declared name is none. -/
def codedAs : Occurrence → Option ReferenceKind
  | declared _ _ => none
  | coded reference => some reference.kind

/-- The member that a reference names. -/
def member : Occurrence → String
  | declared _ _ => ""
  | coded reference => reference.member.getD ""

def edgeKind : Occurrence → EdgeKind
  | declared kind _ => kind
  | coded reference =>
    match reference.kind with
    | .methodCall => .calls
    | .instantiation => .instantiates
    | .fieldAccess => .referencesField
    | .typeUse => .referencesType

/-- A call of the named member of some entity. -/
def Calls (resolver : Resolver) (call : String) (o : Occurrence) : Prop :=
  o.codedAs = some .methodCall ∧ ∃ target ∈ o.target resolver, target ++ "." ++ o.member = call

/-- A call of the constructor of some entity. -/
def Creates (resolver : Resolver) (call : String) (o : Occurrence) : Prop :=
  o.codedAs = some .instantiation ∧ ∃ target ∈ o.target resolver, target ++ "." ++ constructorName = call

/-- A use of an entity in code that runs; naming it as a type is none. -/
def Uses (resolver : Resolver) (target : String) (o : Occurrence) : Prop :=
  o.codedAs ∈ [some .methodCall, some .instantiation, some .fieldAccess] ∧ o.target resolver = some target

def UnresolvedCall (resolver : Resolver) (o : Occurrence) : Prop :=
  o.codedAs = some .methodCall ∧ o.target resolver = none

/-- Anything but a call that leads nowhere. -/
def Dropped (resolver : Resolver) (o : Occurrence) : Prop :=
  o.codedAs ≠ some .methodCall ∧ o.target resolver = none

instance (resolver : Resolver) (call : String) : DecidablePred (Calls resolver call) := fun _ =>
  inferInstanceAs (Decidable (_ ∧ _))

instance (resolver : Resolver) (call : String) : DecidablePred (Creates resolver call) := fun _ =>
  inferInstanceAs (Decidable (_ ∧ _))

instance (resolver : Resolver) (target : String) : DecidablePred (Uses resolver target) := fun _ =>
  inferInstanceAs (Decidable (_ ∧ _))

instance (resolver : Resolver) : DecidablePred (UnresolvedCall resolver) := fun _ =>
  inferInstanceAs (Decidable (_ ∧ _))

instance (resolver : Resolver) : DecidablePred (Dropped resolver) := fun _ =>
  inferInstanceAs (Decidable (_ ∧ _))

variable {resolver : Resolver} {o : Occurrence} {found : String}

/-- Every target comes out of the resolver. -/
theorem exists_resolve (resolved : o.target resolver = some found) :
    ∃ written hint, resolver.resolve written hint = some found := by
  cases o with
  | declared kind name => exact ⟨name, none, resolved⟩
  | coded reference =>
    obtain ⟨written, _, leads⟩ := Option.bind_eq_some_iff.mp resolved
    exact ⟨written, reference.resolved, leads⟩

theorem calls_iff (resolved : o.target resolver = some found) {call : String} :
    o.Calls resolver call ↔ o.codedAs = some .methodCall ∧ found ++ "." ++ o.member = call := by
  simp [Calls, resolved]

theorem creates_iff (resolved : o.target resolver = some found) {call : String} :
    o.Creates resolver call ↔ o.codedAs = some .instantiation ∧ found ++ "." ++ constructorName = call := by
  simp [Creates, resolved]

end Occurrence

theorem count_guarded (p : Prop) [Decidable p] (found name : String) :
    (if p then [found] else []).count name = if p ∧ found = name then 1 else 0 := by
  by_cases guard : p <;> simp [guard, List.count_singleton]

/-- The occurrences in a member: the class names in its type and its parameters' types, then the
references in its body. -/
def Member.occurrences (member : Member) : List Occurrence :=
  ((member.typeName.toList ++ member.parameters.map (·.typeName)).flatMap TypeText.classNames).map
    (.declared .referencesType) ++ member.references.map .coded

/-- All occurrences in an entity. -/
def Entity.occurrences (entity : Entity) : List Occurrence :=
  entity.extended.map (.declared .inherits) ++ entity.implemented.map (.declared .implements) ++
    entity.members.flatMap Member.occurrences ++ entity.references.map .coded

namespace Footprint

variable {resolver : Resolver} {o : Occurrence}

/-- Records one occurrence. -/
def add (resolver : Resolver) (f : Footprint) : Occurrence → Footprint
  | .declared kind name => f.addDeclared resolver kind name
  | .coded reference => f.addReference resolver reference

theorem foldl_occurrences (resolver : Resolver) (member : Member) (f : Footprint) :
    member.occurrences.foldl (add resolver) f = f.addMember resolver member := by
  rw [Member.occurrences, List.foldl_append, List.foldl_map, List.foldl_map]
  rfl

/-- A footprint is made in one pass over the occurrences. -/
theorem ofEntity_eq_foldl (resolver : Resolver) (entity : Entity) :
    ofEntity resolver entity =
      entity.occurrences.foldl (add resolver) { entity := entity.qualifiedName } := by
  simp only [Entity.occurrences, List.foldl_append, List.foldl_map, List.foldl_flatMap, foldl_occurrences]
  rfl

theorem addUsage_eq (f : Footprint) (target : String) :
    f.addUsage target =
      { f with usages := f.usages ++ if target = f.entity then [] else [target] } := by
  unfold addUsage
  split
  · rw [List.append_nil]
  · rfl

/-- An occurrence that leads nowhere is counted, and what it names is noted under the mark. -/
theorem add_of_none (unresolved : o.target resolver = none) (f : Footprint) :
    f.add resolver o =
      { f with
        methodCalls :=
          if o.codedAs = some .methodCall then f.methodCalls.insert (unresolvedMark ++ "." ++ o.member)
          else f.methodCalls
        fieldReferences :=
          if o.codedAs = some .fieldAccess then f.fieldReferences.insert (unresolvedMark ++ "." ++ o.member)
          else f.fieldReferences
        unresolvedCalls := f.unresolvedCalls + if o.codedAs = some .methodCall then 1 else 0
        droppedReferences := f.droppedReferences + if o.codedAs = some .methodCall then 0 else 1 } := by
  cases o with
  | declared kind name =>
    have unresolved : resolver.resolve name none = none := unresolved
    simp only [add, addDeclared, unresolved]
    rfl
  | coded reference =>
    have unresolved : targetOf resolver reference = none := unresolved
    simp only [add, addReference, unresolved]
    cases kind : reference.kind <;> simp only [Occurrence.codedAs, kind] <;> rfl

/-- An occurrence that leads to an entity makes an edge, and more or less besides according to what it
is in the code. -/
theorem add_of_some {target : String} (resolved : o.target resolver = some target) (f : Footprint) :
    f.add resolver o =
      { f with
        dependsOn := f.dependsOn.insert target
        methodCalls :=
          if o.codedAs = some .methodCall then f.methodCalls.insert (target ++ "." ++ o.member)
          else f.methodCalls
        fieldReferences :=
          if o.codedAs = some .fieldAccess then f.fieldReferences.insert (target ++ "." ++ o.member)
          else f.fieldReferences
        edges := f.edges.insert ⟨f.entity, target, o.edgeKind⟩
        callSites := f.callSites ++
          ((if o.codedAs = some .methodCall then [target ++ "." ++ o.member] else []) ++
            if o.codedAs = some .instantiation then [target ++ "." ++ constructorName] else [])
        usages := f.usages ++
          if target ≠ f.entity ∧ o.codedAs ∈ [some .methodCall, some .instantiation, some .fieldAccess] then
            [target]
          else [] } := by
  cases o with
  | declared kind name =>
    have resolved : resolver.resolve name none = some target := resolved
    simp [add, addDeclared, resolved, addEdge, Occurrence.codedAs, Occurrence.edgeKind]
  | coded reference =>
    have resolved : targetOf resolver reference = some target := resolved
    simp only [add, addReference, resolved]
    cases kind : reference.kind with
    | methodCall =>
      simp [addCall, addUsage_eq, addEdge, Occurrence.codedAs, Occurrence.edgeKind, Occurrence.member, kind]
    | instantiation =>
      simp [addInstantiation, addUsage_eq, addEdge, Occurrence.codedAs, Occurrence.edgeKind, kind]
    | fieldAccess =>
      simp [addFieldAccess, addUsage_eq, addEdge, Occurrence.codedAs, Occurrence.edgeKind, Occurrence.member, kind]
    | typeUse =>
      simp [addTypeUse, addEdge, Occurrence.codedAs, Occurrence.edgeKind, kind]

/-- The occurrences seen so far leave this footprint of their owner. -/
structure Records (resolver : Resolver) (owner : String) (seen : List Occurrence) (f : Footprint) : Prop where
  entity : f.entity = owner
  dependsOn : ∀ target, target ∈ f.dependsOn ↔ ∃ o ∈ seen, o.target resolver = some target
  edges : ∀ edge, edge ∈ f.edges ↔
    edge.source = owner ∧ ∃ o ∈ seen, o.edgeKind = edge.kind ∧ o.target resolver = some edge.target
  callSites : ∀ call, f.callSites.count call =
    seen.countP (Occurrence.Calls resolver call) + seen.countP (Occurrence.Creates resolver call)
  usages : ∀ target, f.usages.count target =
    if target = owner then 0 else seen.countP (Occurrence.Uses resolver target)
  unresolvedCalls : f.unresolvedCalls = seen.countP (Occurrence.UnresolvedCall resolver)
  droppedReferences : f.droppedReferences = seen.countP (Occurrence.Dropped resolver)

namespace Records

variable {owner : String} {seen : List Occurrence} {f : Footprint}

theorem start (resolver : Resolver) (owner : String) : Records resolver owner [] { entity := owner } where
  entity := rfl
  dependsOn := by simp
  edges := by simp
  callSites := by simp
  usages := by simp
  unresolvedCalls := rfl
  droppedReferences := rfl

theorem add_unresolved (records : Records resolver owner seen f) (unresolved : o.target resolver = none) :
    Records resolver owner (seen ++ [o]) (f.add resolver o) := by
  rw [add_of_none unresolved]
  refine ⟨records.entity, fun target => ?_, fun edge => ?_, fun call => ?_, fun target => ?_, ?_, ?_⟩
  · simp [records.dependsOn, unresolved, or_and_right, exists_or]
  · simp [records.edges, unresolved, or_and_right, exists_or]
  · simp [records.callSites, Occurrence.Calls, Occurrence.Creates, unresolved, List.countP_append]
  · simp [records.usages, Occurrence.Uses, unresolved, List.countP_append]
  · simp [records.unresolvedCalls, Occurrence.UnresolvedCall, unresolved, List.countP_append,
      List.countP_singleton]
  · simp [records.droppedReferences, Occurrence.Dropped, unresolved, List.countP_append,
      List.countP_singleton]

theorem add_resolved (records : Records resolver owner seen f) {found : String}
    (resolved : o.target resolver = some found) :
    Records resolver owner (seen ++ [o]) (f.add resolver o) := by
  rw [add_of_some resolved, records.entity]
  refine ⟨rfl, fun target => ?_, fun edge => ?_, fun call => ?_, fun target => ?_, ?_, ?_⟩
  · simp only [NameSet.mem_insert, records.dependsOn, List.mem_append, List.mem_singleton, or_and_right,
      exists_or, exists_eq_left, resolved, Option.some.injEq]
    rw [or_comm, eq_comm]
  · simp only [EdgeSet.mem_insert, records.edges]
    constructor
    · rintro (rfl | ⟨source, other, member, same⟩)
      · exact ⟨rfl, o, by simp, rfl, resolved⟩
      · exact ⟨source, other, by simp [member], same⟩
    · rintro ⟨source, other, member, kind, leads⟩
      rcases List.mem_append.mp member with before | last
      · exact Or.inr ⟨source, other, before, kind, leads⟩
      · cases List.mem_singleton.mp last
        cases resolved.symm.trans leads
        exact Or.inl (by rw [← source, kind])
  · rw [List.count_append, List.count_append, count_guarded, count_guarded, records.callSites,
      List.countP_append, List.countP_append, List.countP_singleton, List.countP_singleton]
    simp only [decide_eq_true_eq, Occurrence.calls_iff resolved, Occurrence.creates_iff resolved]
    omega
  · rw [List.count_append, count_guarded, records.usages, List.countP_append, List.countP_singleton]
    simp only [decide_eq_true_eq, Occurrence.Uses, resolved, Option.some.injEq]
    by_cases own : target = owner
    · rw [if_pos own, if_pos own, if_neg]
      rintro ⟨⟨other, _⟩, same⟩
      exact other (same.trans own)
    · rw [if_neg own, if_neg own]
      by_cases same : found = target <;> simp [same, own]
  · simp [records.unresolvedCalls, Occurrence.UnresolvedCall, resolved, List.countP_append]
  · simp [records.droppedReferences, Occurrence.Dropped, resolved, List.countP_append]

theorem add (records : Records resolver owner seen f) (o : Occurrence) :
    Records resolver owner (seen ++ [o]) (f.add resolver o) := by
  cases resolved : o.target resolver with
  | none => exact records.add_unresolved resolved
  | some found => exact records.add_resolved resolved

theorem foldl_add (records : Records resolver owner seen f) (rest : List Occurrence) :
    Records resolver owner (seen ++ rest) (rest.foldl (Footprint.add resolver) f) := by
  induction rest generalizing seen f with
  | nil => simpa using records
  | cons o rest ih => simpa using ih (records.add o)

theorem mem_callSites (records : Records resolver owner seen f) {call : String} :
    call ∈ f.callSites ↔ ∃ o ∈ seen, o.Calls resolver call ∨ o.Creates resolver call := by
  rw [← List.count_pos_iff, records.callSites, Nat.add_pos_iff_pos_or_pos, List.countP_pos_iff,
    List.countP_pos_iff]
  simp only [decide_eq_true_eq, and_or_left, exists_or]

end Records

/-- The footprint of an entity accounts for all of its occurrences. -/
theorem ofEntity_records (resolver : Resolver) (entity : Entity) :
    Records resolver entity.qualifiedName entity.occurrences (ofEntity resolver entity) := by
  rw [ofEntity_eq_foldl]
  exact (Records.start resolver entity.qualifiedName).foldl_add entity.occurrences

end Footprint

end CodeSurvey
