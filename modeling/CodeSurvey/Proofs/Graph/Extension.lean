import CodeSurvey.Proofs.Graph.Dependency

namespace CodeSurvey

theorem find?_insert_eq_or {α : Type} (p : α → Bool) (front back : List α) (item : α) :
    (front ++ item :: back).find? p = (front ++ back).find? p ∨
      (front ++ item :: back).find? p = some item := by
  rw [List.find?_append, List.find?_append, List.find?_cons]
  cases front.find? p with
  | some found => exact Or.inl rfl
  | none =>
    cases p item with
    | true => exact Or.inr rfl
    | false => exact Or.inl rfl

namespace Resolver

/-- One resolver differs from another only in names that it leads to one entity. -/
def Redirects (before after : Resolver) (added : String) : Prop :=
  ∀ written hint, after.resolve written hint = before.resolve written hint ∨
    after.resolve written hint = some added

section Insert

variable (model : Model) (added : Entity) (name : String)

theorem exact_insert (hint : Option String) :
    (ofModel (model.insert added)).exact name hint = (ofModel model).exact name hint ∨
      (ofModel (model.insert added)).exact name hint = some added.qualifiedName := by
  by_cases hinted : ∃ guess ∈ hint, model.contains guess
  · obtain ⟨guess, isGuess, known⟩ := hinted
    rw [exact_of_guess isGuess (Model.contains_insert.mpr (Or.inr known)), exact_of_guess isGuess known]
    exact Or.inl rfl
  have unhinted : ∀ guess ∈ hint, ¬model.contains guess := fun guess isGuess known =>
    hinted ⟨guess, isGuess, known⟩
  by_cases taken : hint = some added.qualifiedName
  · rw [exact_of_guess taken (Model.contains_insert.mpr (Or.inl rfl))]
    exact Or.inr rfl
  have stillUnhinted : ∀ guess ∈ hint, ¬(model.insert added).contains guess := by
    intro guess isGuess known
    rcases Model.contains_insert.mp known with rfl | old
    · exact taken isGuess
    · exact unhinted guess isGuess old
  rw [exact_of_unhinted unhinted, exact_of_unhinted stillUnhinted]
  by_cases own : name = added.qualifiedName
  · rw [if_pos (Model.contains_insert.mpr (Or.inl own)), own]
    exact Or.inr rfl
  · exact Or.inl (by simp only [Model.contains_insert, own, false_or])

theorem byLocalName_insert (fresh : ¬model.contains added.qualifiedName) :
    (ofModel (model.insert added)).byLocalName name = (ofModel model).byLocalName name ∨
      (ofModel (model.insert added)).byLocalName name = some added.qualifiedName := by
  simp only [byLocalName, ofModel, getElem?_indexModel, Model.contains_insert]
  by_cases own : name = added.qualifiedName
  · rw [if_pos (Or.inl own), own]
    exact Or.inr rfl
  by_cases known : model.contains name
  · rw [if_pos (Or.inr known), if_pos known]
    exact Or.inl rfl
  rw [if_neg (not_or.mpr ⟨own, known⟩), if_neg known]
  obtain ⟨front, back, before, after⟩ := Model.exists_toList_insert fresh
  rw [before, after]
  rcases find?_insert_eq_or (fun entity => decide (Bears entity name)) front back added with same | taken
  · exact Or.inl (by rw [same])
  · exact Or.inr (by rw [taken, Option.map_some])

theorem insert_redirects : Redirects (ofModel model) (ofModel (model.insert added)) added.qualifiedName := by
  intro written hint
  by_cases known : model.contains added.qualifiedName
  · rw [Model.insert_of_contains known]
    exact Or.inl rfl
  by_cases named : TypeText.className written = ""
  · rw [resolve_of_nameless named, resolve_of_nameless named]
    exact Or.inl rfl
  rw [resolve_of_named named, resolve_of_named named]
  rcases exact_insert model added (TypeText.className written) hint with same | taken
  · rw [same]
    cases (ofModel model).exact (TypeText.className written) hint with
    | some found => exact Or.inl rfl
    | none => exact byLocalName_insert model added (TypeText.className written) known
  · rw [taken]
    exact Or.inr rfl

end Insert

namespace Redirects

variable {before after : Resolver} {added : String}

theorem target (redirects : Redirects before after added) (o : Occurrence) :
    o.target after = o.target before ∨ o.target after = some added := by
  cases o with
  | declared kind name => exact redirects name none
  | coded reference =>
    simp only [Occurrence.target]
    cases reference.target with
    | none =>
      rw [Option.bind_none, Option.bind_none]
      exact Or.inl rfl
    | some written =>
      rw [Option.bind_some, Option.bind_some]
      exact redirects written reference.resolved

theorem target_of_ne (redirects : Redirects before after added) {o : Occurrence} {target : String}
    (leads : o.target after = some target) (other : target ≠ added) : o.target before = some target := by
  rcases redirects.target o with same | taken
  · rw [← same, leads]
  · rw [taken] at leads
    exact absurd (Option.some.inj leads).symm other

theorem target_eq_none (redirects : Redirects before after added) {o : Occurrence}
    (nowhere : o.target after = none) : o.target before = none := by
  rcases redirects.target o with same | taken
  · rw [← same, nowhere]
  · rw [taken] at nowhere
    contradiction

theorem mem_dependsOn (redirects : Redirects before after added) {entity : Entity} {target : String}
    (member : target ∈ (Footprint.ofEntity after entity).dependsOn) (other : target ≠ added) :
    target ∈ (Footprint.ofEntity before entity).dependsOn := by
  obtain ⟨o, inside, leads⟩ := ((Footprint.ofEntity_records after entity).dependsOn target).mp member
  have ledBefore := redirects.target_of_ne leads other
  exact ((Footprint.ofEntity_records before entity).dependsOn target).mpr ⟨o, inside, ledBefore⟩

/-- Of whatever sort, no more occurrences lead nowhere. -/
theorem countP_nowhere_le (redirects : Redirects before after added) (sort : Occurrence → Prop)
    [DecidablePred sort] (occurrences : List Occurrence) :
    occurrences.countP (fun o => sort o ∧ o.target after = none) ≤
      occurrences.countP fun o => sort o ∧ o.target before = none := by
  refine List.countP_mono_left fun o _ nowhere => decide_eq_true ?_
  obtain ⟨ofSort, lost⟩ := of_decide_eq_true nowhere
  exact ⟨ofSort, redirects.target_eq_none lost⟩

theorem unresolvedCalls_le (redirects : Redirects before after added) (entity : Entity) :
    (Footprint.ofEntity after entity).unresolvedCalls ≤
      (Footprint.ofEntity before entity).unresolvedCalls := by
  rw [(Footprint.ofEntity_records after entity).unresolvedCalls,
    (Footprint.ofEntity_records before entity).unresolvedCalls]
  exact redirects.countP_nowhere_le (fun o => o.codedAs = some .methodCall) entity.occurrences

theorem droppedReferences_le (redirects : Redirects before after added) (entity : Entity) :
    (Footprint.ofEntity after entity).droppedReferences ≤
      (Footprint.ofEntity before entity).droppedReferences := by
  rw [(Footprint.ofEntity_records after entity).droppedReferences,
    (Footprint.ofEntity_records before entity).droppedReferences]
  exact redirects.countP_nowhere_le (fun o => o.codedAs ≠ some .methodCall) entity.occurrences

end Redirects

end Resolver

namespace Footprint

/-- An entity that joins a model only draws references to itself. Each occurrence in another entity leads
where it led before or to the newcomer, so the other entity depends on nothing else that is new to it, and
no more of its references lead nowhere. -/
theorem insert_only_redirects (model : Model) (added entity : Entity) :
    let before := Resolver.ofModel model
    let after := Resolver.ofModel (model.insert added)
    (∀ o ∈ entity.occurrences,
        o.target after = o.target before ∨ o.target after = some added.qualifiedName) ∧
      (∀ target ∈ (ofEntity after entity).dependsOn, target ≠ added.qualifiedName →
        target ∈ (ofEntity before entity).dependsOn) ∧
      (ofEntity after entity).unresolvedCalls ≤ (ofEntity before entity).unresolvedCalls ∧
      (ofEntity after entity).droppedReferences ≤ (ofEntity before entity).droppedReferences := by
  intro before after
  have redirects : Resolver.Redirects before after added.qualifiedName :=
    Resolver.insert_redirects model added
  exact ⟨fun o _ => redirects.target o, fun _ => redirects.mem_dependsOn,
    redirects.unresolvedCalls_le entity, redirects.droppedReferences_le entity⟩

/-- The newcomer bears the name of two others and sorts before them. It takes over what one of them was
called by its local name, and leaves alone the other, which is called by its full name. -/
theorem insert_only_redirects_homonyms :
    let before := Resolver.ofModel (.ofList Resolver.homonyms)
    let after := Resolver.ofModel ((Model.ofList Resolver.homonyms).insert (.declare .classType "a" "B" ""))
    (Resolver.homonyms.map fun entity => (ofEntity before entity).dependsOn.toList) =
        [[], [], ["p.A", "p.B", "q.B"]] ∧
      (Resolver.homonyms.map fun entity => (ofEntity after entity).dependsOn.toList) =
        [[], [], ["a.B", "p.A", "q.B"]] ∧
      ∀ entity, "q.B" ∈ (ofEntity after entity).dependsOn → "q.B" ∈ (ofEntity before entity).dependsOn := by
  intro before after
  refine ⟨by decide +kernel, by decide +kernel, fun entity member => ?_⟩
  obtain ⟨_, keeps, _⟩ :=
    insert_only_redirects (.ofList Resolver.homonyms) (.declare .classType "a" "B" "") entity
  exact keeps "q.B" member (by decide +kernel)

end Footprint

end CodeSurvey
