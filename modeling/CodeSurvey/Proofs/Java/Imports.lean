import CodeSurvey.Proofs.Java.BodyScan
import CodeSurvey.Proofs.Java.Declaration
import CodeSurvey.Proofs.Unused

namespace CodeSurvey

namespace Name

/-- A dotted text that ends in a simple name. -/
def EndsIn (text name : List Char) : Prop :=
  text = name ∨ ∃ front, text = front ++ '.' :: name

theorem splitLast_eq_none {text : List Char} (simple : '.' ∉ text) : splitLast text = none := by
  induction text with
  | nil => rfl
  | cons c rest ih =>
    rw [List.mem_cons, not_or] at simple
    rw [splitLast, ih simple.2, if_neg (Ne.symm simple.1)]

theorem splitLast_append {front name : List Char} (simple : '.' ∉ name) :
    splitLast (front ++ '.' :: name) = some (front, name) := by
  induction front with
  | nil => rw [List.nil_append, splitLast, splitLast_eq_none simple, if_pos rfl]
  | cons c front ih => rw [List.cons_append, splitLast, ih]

theorem lastSegment_eq {qualified name : String} (ends : EndsIn qualified.toList name.toList)
    (simple : '.' ∉ name.toList) : lastSegment qualified = name := by
  unfold lastSegment
  rcases ends with same | ⟨front, split⟩
  · rw [same, splitLast_eq_none simple]
    exact String.toList_inj.mp same
  · rw [split, splitLast_append simple]
    exact String.ofList_toList

theorem EndsIn.dropWhile {text name : List Char} (ends : EndsIn text name) (simple : '.' ∉ name)
    (named : name ≠ []) : EndsIn (text.dropWhile (· == '.')) name := by
  have stops : name.dropWhile (· == '.') = name := by
    cases name with
    | nil => exact absurd rfl named
    | cons c rest =>
      rw [List.mem_cons, not_or] at simple
      exact List.dropWhile_cons_of_neg (by simpa using Ne.symm simple.1)
  rcases ends with rfl | ⟨front, rfl⟩
  · exact Or.inl stops
  · rw [List.dropWhile_append]
    split
    · left
      rw [List.dropWhile_cons_of_pos rfl, stops]
    · exact Or.inr ⟨_, rfl⟩

theorem endsIn_qualify (package : String) {name : String} {text : List Char}
    (ends : EndsIn name.toList text) : EndsIn (qualify package name).toList text := by
  unfold qualify
  split
  · exact ends
  · right
    rcases ends with same | ⟨front, split⟩
    · exact ⟨package.toList, by simp [same]⟩
    · exact ⟨package.toList ++ '.' :: front, by simp [split]⟩

end Name

namespace Java

namespace FileContext

/-- The type that a single-type import names. -/
def importedName? (declaration : Tree) : Option String :=
  if declaration.kind = .importDeclaration ∧ importsOneType declaration then declaredName declaration
  else none

/-- The types that the single-type imports of a file name, in their order. -/
def importedNames (unit : Tree) : List String :=
  unit.children.filterMap importedName?

/-- The last import of a simple name. -/
def lastImport? (unit : Tree) (name : String) : Option String :=
  (importedNames unit).reverse.find? fun qualified => name = Name.lastSegment qualified

theorem imports_absorb (context : FileContext) (declaration : Tree) :
    (context.absorb declaration).imports =
      (importedName? declaration).toList.foldl
        (fun imports name => imports.insert (Name.lastSegment name) name) context.imports := by
  unfold absorb importedName?
  split
  · next kind _ => simp [kind]
  · next kind name =>
    by_cases single : importsOneType declaration
    · simp [kind, name, single]
    · simp [kind, single]
  · next other =>
    split
    · next isImport =>
      cases named : declaredName declaration with
      | none => rfl
      | some name => exact (other name isImport.1 named).elim
    · rfl

theorem imports_foldl_absorb (declarations : List Tree) (context : FileContext) :
    (declarations.foldl absorb context).imports =
      (declarations.filterMap importedName?).foldl
        (fun imports name => imports.insert (Name.lastSegment name) name) context.imports := by
  induction declarations generalizing context with
  | nil => rfl
  | cons declaration rest ih =>
    rw [List.foldl_cons, ih, imports_absorb, ← List.foldl_append, List.filterMap_cons]
    cases importedName? declaration <;> rfl

theorem get?_imports (path : String) (unit : Tree) (name : String) :
    (ofUnit path unit).imports.get? name = lastImport? unit name := by
  have found := NameMap.getElem?_foldl_insert Name.lastSegment (fun name => name) (importedNames unit) ∅ name
  rw [Option.map_id', Std.ExtTreeMap.getElem?_empty, Option.or_none] at found
  rw [ofUnit]
  exact imports_foldl_absorb unit.children _ ▸ found

theorem hint_of_primitive (context : FileContext) {written : String}
    (primitive : TypeText.isPrimitive (TypeText.className written)) : context.hint written = none := by
  rw [hint, primitive, Bool.or_true, if_pos rfl]

theorem hint_of_imported (context : FileContext) {written qualified : String}
    (plain : ¬TypeText.isPrimitive (TypeText.className written))
    (named : IsName (TypeText.className written))
    (imported : context.imports.get? (TypeText.className written) = some qualified) :
    context.hint written = some qualified := by
  have simple : ¬(TypeText.className written).toList.contains '.' := by
    rw [List.contains_iff_mem]
    exact named.noDot
  have looked : ¬((TypeText.className written).isEmpty || TypeText.isPrimitive (TypeText.className written)) := by
    simp [named.1, plain]
  rw [hint, if_neg looked, if_neg simple, imported, Option.getD_some]

end FileContext

/-- How the code of a type names a type: not at all, as itself, or as it is written, with the hint that
the file gives. -/
inductive ScopeType.ReadIn (scope : TypeScope) : ScopeType → Prop
  | unknown : ReadIn scope {}
  | own : ReadIn scope ⟨some scope.simpleName, some scope.qualifiedName⟩
  | written (text : String) : ReadIn scope ⟨some text, scope.file.hint text⟩

/-- The type that a reference names, with its hint. -/
def scopeTypeOf (reference : Reference) : ScopeType :=
  ⟨reference.target, reference.resolved⟩

theorem readIn_withHint {scope : TypeScope} {reference : Reference} {hint : Option String}
    (read : ScopeType.ReadIn scope ⟨reference.target, hint⟩) (unhinted : reference.resolved = none) :
    (scopeTypeOf (reference.withHint hint)).ReadIn scope := by
  cases hint with
  | none =>
    rw [Reference.withHint, scopeTypeOf, unhinted]
    exact read
  | some name => exact read

namespace BodyScope

variable (scope : BodyScope)

theorem readIn_nameType (name : String) : (scope.nameType name).ReadIn scope.type := by
  unfold nameType
  split
  · exact .written _
  · exact .written _
  · split
    · exact .written _
    · exact .unknown

theorem readIn_getD (found : Option String) : ((found.map scope.writtenType).getD {}).ReadIn scope.type := by
  cases found with
  | none => exact .unknown
  | some text => exact .written text

theorem readIn_plainType (object : Tree) : (scope.plainType object).ReadIn scope.type := by
  unfold plainType
  split
  · exact .own
  · exact scope.readIn_getD _
  · exact scope.readIn_nameType _
  · split
    · exact .written _
    · exact .unknown
  · exact Option.map_map scope.writtenType Tree.text _ ▸ scope.readIn_getD _
  · exact Option.map_map scope.writtenType Tree.text _ ▸ scope.readIn_getD _
  · exact .unknown

mutual

theorem readIn_objectType : ∀ object : Tree, (scope.objectType object).ReadIn scope.type
  | .leaf role kind content => by
    rw [objectType]
    exact scope.readIn_plainType _
  | .node role kind children => by
    rw [objectType]
    split
    · exact readIn_firstType children
    · exact scope.readIn_plainType _

theorem readIn_firstType : ∀ trees : List Tree, (scope.firstType trees).ReadIn scope.type
  | [] => by
    rw [firstType]
    exact .unknown
  | tree :: rest => by
    rw [firstType]
    split
    · exact readIn_objectType tree
    · exact readIn_firstType rest

end

theorem readIn_calledType (call : Tree) : (scope.calledType call).ReadIn scope.type := by
  unfold calledType
  cases call.child? .object with
  | none => exact .own
  | some object => exact scope.readIn_objectType object

theorem readIn_usesOf {types : List Tree} {reference : Reference} (made : reference ∈ scope.usesOf types) :
    (scopeTypeOf reference).ReadIn scope.type := by
  obtain ⟨type, _, made⟩ := List.mem_flatMap.mp made
  obtain ⟨name, _, rfl⟩ := List.mem_map.mp made
  exact readIn_withHint (.written name) rfl

theorem readIn_referencesAt {tree : Tree} {reference : Reference} (made : reference ∈ scope.referencesAt tree) :
    (scopeTypeOf reference).ReadIn scope.type := by
  unfold referencesAt at made
  split at made
  · cases List.mem_singleton.mp made
    exact readIn_withHint (scope.readIn_calledType tree) rfl
  · obtain ⟨type, _, rfl⟩ := List.mem_map.mp made
    exact readIn_withHint (.written type.text) rfl
  · obtain ⟨object, _, rfl⟩ := List.mem_map.mp made
    exact readIn_withHint (scope.readIn_objectType object) rfl
  · exact scope.readIn_usesOf made
  · exact scope.readIn_usesOf made
  · exact scope.readIn_usesOf made
  · cases made

theorem readIn_findings {parent : Kind} {tree : Tree} {reference : Reference}
    (made : reference ∈ (scope.findings parent tree).references) :
    (scopeTypeOf reference).ReadIn scope.type := by
  rw [references_findings] at made
  obtain ⟨node, _, made⟩ := List.mem_flatMap.mp made
  exact scope.readIn_referencesAt made

end BodyScope

namespace DeclaredType

variable {type : DeclaredType} {file : FileContext} {reference : Reference}

theorem readIn_referencesOf {scope : TypeScope} {declaration : Tree}
    (made : reference ∈ referencesOf scope declaration) : (scopeTypeOf reference).ReadIn scope := by
  unfold referencesOf at made
  split at made
  · unfold Declaration.initialReferences at made
    split at made
    · obtain ⟨⟨name, declarator⟩, _, made⟩ := List.mem_flatMap.mp made
      dsimp only at made
      split at made
      · exact BodyScope.readIn_findings _ made
      · cases made
    · cases made
  · split at made
    · exact BodyScope.readIn_findings _ made
    · cases made

/-- Every reference in the code of a type is read in the scope of that type. -/
theorem readIn_codeReferences (made : reference ∈ (type.entity file).codeReferences) :
    (scopeTypeOf reference).ReadIn (type.scope file) := by
  rw [Entity.codeReferences, List.mem_append] at made
  rcases made with inMember | outside
  · obtain ⟨member, declared, made⟩ := List.mem_flatMap.mp inMember
    rcases codeless_or_callable declared with codeless | ⟨declaration, body, found, rfl⟩
    · rw [codeless.references] at made
      cases made
    · rw [Declaration.callable_of_body _ _ found] at made
      exact BodyScope.readIn_findings _ made
  · obtain ⟨declaration, _, made⟩ := List.mem_flatMap.mp outside
    exact readIn_referencesOf made

theorem endsIn_of_ofTree? {outer : Option String} {tree : Tree} (declares : ofTree? outer tree = some type) :
    Name.EndsIn type.localName.toList type.name.toList := by
  unfold ofTree? at declares
  split at declares
  · cases declares
    cases outer with
    | none => exact Or.inl rfl
    | some outer => exact Or.inr ⟨outer.toList, by simp⟩
  · cases declares

/-- The name of a type within its package ends in its simple name, however deep it is nested. -/
theorem endsIn_localName (ends : Name.EndsIn type.localName.toList type.name.toList)
    (isName : IsName type.name) :
    Name.EndsIn (Resolver.localName (type.entity file)) type.name.toList := by
  have named : type.name.toList ≠ [] := by simpa using isName.1
  have qualified : (type.entity file).qualifiedName = Name.qualify file.package type.localName := rfl
  have package : (type.entity file).package = file.package := rfl
  rw [Resolver.localName, qualified, package, Name.qualify]
  by_cases unnamed : file.package.isEmpty
  · rw [if_pos unnamed, String.isEmpty_iff.mp unnamed]
    exact ends.dropWhile isName.noDot named
  · have split : (file.package ++ "." ++ type.localName).toList =
        file.package.toList ++ '.' :: type.localName.toList := by simp
    have begins : file.package.toList.isPrefixOf (file.package.toList ++ '.' :: type.localName.toList) :=
      List.isPrefixOf_iff_prefix.mpr ⟨_, rfl⟩
    rw [if_neg unnamed, split, if_pos begins, List.drop_left, List.dropWhile_cons_of_pos rfl]
    exact ends.dropWhile isName.noDot named

theorem bears_name (ends : Name.EndsIn type.localName.toList type.name.toList) (isName : IsName type.name) :
    Resolver.Bears (type.entity file) type.name := by
  rw [Resolver.bears_iff, Resolver.endings_eq_cons, List.mem_cons, Resolver.mem_tail_endings]
  rcases endsIn_localName ends isName with same | split
  · exact Or.inl same.symm
  · exact Or.inr split

theorem lastSegment_qualifiedName (ends : Name.EndsIn type.localName.toList type.name.toList)
    (isName : IsName type.name) : Name.lastSegment (type.entity file).qualifiedName = type.name :=
  Name.lastSegment_eq (Name.endsIn_qualify file.package ends) isName.noDot

end DeclaredType

end Java

namespace Occurrence

/-- What is written at an occurrence. -/
def written : Occurrence → Option String
  | declared _ name => some name
  | coded reference => reference.target

/-- The hint at an occurrence; names in a declaration have none. -/
def hint : Occurrence → Option String
  | declared _ _ => none
  | coded reference => reference.resolved

theorem target_eq (resolver : Resolver) (o : Occurrence) :
    o.target resolver = o.written.bind fun written => resolver.resolve written o.hint := by
  cases o with
  | declared kind name => simp only [target, written, hint, Option.bind_some]
  | coded reference => simp only [target, written, hint]

/-- The occurrence writes a type with this class name. -/
def Names (o : Occurrence) (name : String) : Prop :=
  o.written.map TypeText.className = some name

/-- The import by which a simple name is read: in a declaration none, and in code the last one of the name,
unless the name is built in. -/
def importGuess (unit : Java.Tree) (name : String) : Occurrence → Option String
  | declared _ _ => none
  | coded _ => if TypeText.isPrimitive name then none else Java.FileContext.lastImport? unit name

end Occurrence

/-- What a simple name stands for where no hint is given: itself when it is a qualified name, and otherwise
the first entity that bears it. -/
def Resolver.IsFirst (model : Model) (name qualified : String) : Prop :=
  qualified = name ∨ ¬model.contains name ∧ IsLeast (bearers model name) qualified

/-- A name that some entity bears always leads somewhere. -/
theorem Resolver.Meaning.exists_of_borne {model : Model} {name qualified : String} {hint result : Option String}
    (meaning : Meaning model name hint result) (named : name ≠ "") (known : model.contains qualified)
    (borne : qualified ∈ bearers model name) :
    ∃ target, result = some target ∧
      (target = qualified ↔ hint = some qualified ∨
        (∀ guess ∈ hint, ¬model.contains guess) ∧ IsFirst model name qualified) := by
  cases meaning with
  | nameless nameless => exact absurd nameless named
  | nobody _ _ _ nobody =>
    obtain ⟨entity, member, bears, _⟩ := borne
    exact absurd bears (nobody entity member)
  | @guess guess _ hinted guessKnown =>
    subst hinted
    exact ⟨guess, rfl, by simp [guessKnown]⟩
  | qualified _ unhinted nameKnown =>
    have other : hint ≠ some qualified := fun hinted => unhinted qualified hinted known
    refine ⟨name, rfl, ?_⟩
    simp only [other, IsFirst, nameKnown, not_true_eq_false, false_and, or_false, false_or]
    exact ⟨fun same => ⟨unhinted, same.symm⟩, fun first => first.2.symm⟩
  | @bearer target _ unhinted unknown least =>
    have other : hint ≠ some qualified := fun hinted => unhinted qualified hinted known
    have notName : qualified ≠ name := fun same => unknown (same ▸ known)
    refine ⟨target, rfl, ?_⟩
    simp only [other, IsFirst, notName, false_or]
    constructor
    · rintro rfl
      exact ⟨unhinted, unknown, least⟩
    · rintro ⟨_, _, alsoLeast⟩
      exact least.unique alsoLeast

namespace Java

/-- Every entity of the files bears the last segment of its qualified name, and that is a name. -/
theorem mem_bearers_lastSegment {files : List (String × Tree)} {qualified : String}
    (wellDeclared : ∀ file ∈ files, WellDeclared file.2)
    (known : (Model.ofList (files.flatMap fun file => extract file.1 file.2)).contains qualified) :
    IsName (Name.lastSegment qualified) ∧
      qualified ∈ Resolver.bearers (Model.ofList (files.flatMap fun file => extract file.1 file.2))
        (Name.lastSegment qualified) := by
  rw [← Model.mem_names, ← (Model.ofList_keyed _).map_qualifiedName] at known
  obtain ⟨entity, kept, rfl⟩ := List.mem_map.mp known
  have arrived := List.mem_of_find?_eq_some (Model.mem_toList_ofList.mp kept)
  obtain ⟨file, member, extracted⟩ := List.mem_flatMap.mp arrived
  obtain ⟨type, declared, rfl⟩ := List.mem_map.mp extracted
  have isIn := DeclaredType.isIn_of_declared declared
  obtain ⟨_, declares⟩ := isIn.2
  have ends := DeclaredType.endsIn_of_ofTree? declares
  have isName := DeclaredType.isName_of_isIn (wellDeclared file member) isIn
  rw [DeclaredType.lastSegment_qualifiedName ends isName]
  exact ⟨isName, _, kept, DeclaredType.bears_name ends isName, rfl⟩

/-- Where a file imports a simple name and does not declare it, the import is the hint at all occurrences of
the name in code. -/
theorem hint_eq_importGuess {type : DeclaredType} {path : String} {unit : Tree} {o : Occurrence}
    {qualified : String} (imported : qualified ∈ FileContext.importedNames unit)
    (named : IsName (Name.lastSegment qualified)) (isName : IsName type.name)
    (other : type.name ≠ Name.lastSegment qualified)
    (occurs : o ∈ (type.entity (FileContext.ofUnit path unit)).occurrences)
    (names : o.Names (Name.lastSegment qualified)) :
    o.hint = o.importGuess unit (Name.lastSegment qualified) := by
  cases o with
  | declared kind written => rfl
  | coded reference =>
    have read := DeclaredType.readIn_codeReferences (Entity.coded_mem_occurrences.mp occurs)
    have target : reference.target.map TypeText.className = some (Name.lastSegment qualified) := names
    unfold scopeTypeOf at read
    rw [Occurrence.hint, Occurrence.importGuess]
    generalize reference.target = written, reference.resolved = hint at read target
    cases read with
    | unknown => cases target
    | own =>
      have same : TypeText.className type.name = Name.lastSegment qualified := Option.some.inj target
      exact absurd (isName.className_eq.symm.trans same) other
    | written text =>
      have same : TypeText.className text = Name.lastSegment qualified := Option.some.inj target
      rw [← same] at named ⊢
      have present : (FileContext.lastImport? unit (TypeText.className text)).isSome :=
        List.find?_isSome.mpr ⟨qualified, List.mem_reverse.mpr imported, by simpa using same⟩
      obtain ⟨last, found⟩ := Option.isSome_iff_exists.mp present
      split
      · next primitive => exact FileContext.hint_of_primitive _ primitive
      · next plain =>
        rw [found]
        exact FileContext.hint_of_imported _ plain named ((FileContext.get?_imports path unit _).trans found)

/-- A type of the model whose file imports an entity of the model and declares no type of the same simple
name. -/
structure SeesImport (model : Model) (file : String × Tree) (type : DeclaredType) (qualified : String) : Prop where
  imported : qualified ∈ FileContext.importedNames file.2
  known : model.contains qualified
  undeclared : ∀ other ∈ file.2.children.flatMap (DeclaredType.declaredBy none),
    other.name ≠ Name.lastSegment qualified
  declared : type ∈ file.2.children.flatMap (DeclaredType.declaredBy none)
  kept : type.entity (FileContext.ofUnit file.1 file.2) ∈ model.toList

/-- Where a type sees an import, every occurrence of the simple name in it makes an edge. The edge leads to the
imported type when the occurrence is read by that import, and when it is read by none that the model knows and
the imported type is the first of its name; in no other case. -/
theorem target_of_imported_name (files : List (String × Tree))
    (wellDeclared : ∀ file ∈ files, WellDeclared file.2) :
    let model := Model.ofList (files.flatMap fun file => extract file.1 file.2)
    ∀ file ∈ files, ∀ type qualified, SeesImport model file type qualified →
      let entity := type.entity (FileContext.ofUnit file.1 file.2)
      let name := Name.lastSegment qualified
      ∀ o ∈ entity.occurrences, o.Names name →
        ∃ target, o.target (Resolver.ofModel model) = some target ∧
          ⟨entity.qualifiedName, target, o.edgeKind⟩ ∈ (DependencyGraph.build model).edges ∧
          (target = qualified ↔ o.importGuess file.2 name = some qualified ∨
            (∀ guess ∈ o.importGuess file.2 name, ¬model.contains guess) ∧
              Resolver.IsFirst model name qualified) := by
  intro model file member type qualified sees entity name o occurs names
  have isName := DeclaredType.isName_of_isIn (wellDeclared file member)
    (DeclaredType.isIn_of_declared sees.declared)
  obtain ⟨named, borne⟩ := mem_bearers_lastSegment wellDeclared sees.known
  have hint := hint_eq_importGuess sees.imported named isName (sees.undeclared type sees.declared) occurs names
  obtain ⟨written, wrote, same⟩ := Option.map_eq_some_iff.mp names
  have keyed : model.Keyed := Model.ofList_keyed _
  have meaning := Resolver.resolve_meaning keyed written o.hint
  rw [same, hint] at meaning
  obtain ⟨target, resolved, exactly⟩ := meaning.exists_of_borne named.1 sees.known borne
  have leads : o.target (Resolver.ofModel model) = some target := by
    rw [Occurrence.target_eq, wrote, Option.bind_some, hint, resolved]
  exact ⟨target, leads, DependencyGraph.mem_edges.mpr ⟨entity, sees.kept, rfl, o, occurs, rfl, leads⟩, exactly⟩

/-- Two packages have a type of one name. A third imports the second of them, extends it and creates it. -/
def importers : List (String × String) :=
  [("N.java", "package a; class N \x7b \x7d"), ("N.java", "package b; class N \x7b \x7d"),
    ("C.java", "package c; import b.N; class C extends N \x7b Object make() \x7b return new N(); \x7d \x7d")]

def importerFiles : List (String × Tree) :=
  treesOf importers

def importerModel : Model :=
  .ofList (importerFiles.flatMap fun file => extract file.1 file.2)

theorem lastSegment_importer : Name.lastSegment "b.N" = "N" := by
  decide +kernel

theorem className_importer : TypeText.className "N" = "N" := by
  decide +kernel

/-- The importing type, with what it extends, what its code refers to, and what the bare name stands for. -/
theorem exists_importer :
    ∃ file ∈ importerFiles, ∃ type, SeesImport importerModel file type "b.N" ∧
      FileContext.importedNames file.2 = ["b.N"] ∧
      (type.entity (FileContext.ofUnit file.1 file.2)).qualifiedName = "c.C" ∧
      (type.entity (FileContext.ofUnit file.1 file.2)).extended = ["N"] ∧
      (type.entity (FileContext.ofUnit file.1 file.2)).codeReferences =
        [(Reference.instantiation "N").withHint (some "b.N")] ∧
      (Resolver.ofModel importerModel).resolve "N" none = some "a.N" := by
  have evaluated : ∃ file ∈ importerFiles, ∃ type ∈ file.2.children.flatMap (DeclaredType.declaredBy none),
      FileContext.importedNames file.2 = ["b.N"] ∧ importerModel.contains "b.N" ∧
      (∀ other ∈ file.2.children.flatMap (DeclaredType.declaredBy none), other.name ≠ "N") ∧
      type.entity (FileContext.ofUnit file.1 file.2) ∈ importerModel.toList ∧
      (type.entity (FileContext.ofUnit file.1 file.2)).qualifiedName = "c.C" ∧
      (type.entity (FileContext.ofUnit file.1 file.2)).extended = ["N"] ∧
      (type.entity (FileContext.ofUnit file.1 file.2)).codeReferences =
        [(Reference.instantiation "N").withHint (some "b.N")] ∧
      (Resolver.ofModel importerModel).resolve "N" none = some "a.N" := by
    decide +kernel
  obtain ⟨file, member, type, declared, imports, known, undeclared, kept, shown⟩ := evaluated
  have sees : SeesImport importerModel file type "b.N" :=
    ⟨by simp [imports], known, lastSegment_importer ▸ undeclared, declared, kept⟩
  exact ⟨file, member, type, sees, imports, shown⟩

theorem target_of_imported_name_importers :
    (∀ file ∈ importerFiles, WellDeclared file.2) ∧
    ∃ file ∈ importerFiles, ∃ type, SeesImport importerModel file type "b.N" ∧
      ∃ o ∈ (type.entity (FileContext.ofUnit file.1 file.2)).occurrences, o.Names "N" ∧
        o.target (Resolver.ofModel importerModel) = some "b.N" ∧
        ⟨"c.C", "b.N", .instantiates⟩ ∈ (DependencyGraph.build importerModel).edges := by
  obtain ⟨file, member, type, sees, imports, qualified, _, references, _⟩ := exists_importer
  let o := Occurrence.coded ((Reference.instantiation "N").withHint (some "b.N"))
  have occurs : o ∈ (type.entity (FileContext.ofUnit file.1 file.2)).occurrences :=
    Entity.coded_mem_occurrences.mpr (by simp [references])
  have names : o.Names "N" := congrArg some className_importer
  have read : o.importGuess file.2 "N" = some "b.N" := by
    rw [Occurrence.importGuess, if_neg (by decide), FileContext.lastImport?, imports]
    decide +kernel
  have wellDeclared : ∀ file ∈ importerFiles, WellDeclared file.2 := wellDeclared_of_mem_treesOf
  obtain ⟨target, leads, edge, exactly⟩ := target_of_imported_name importerFiles wellDeclared file member type
    "b.N" sees o occurs (lastSegment_importer ▸ names)
  cases exactly.mpr (Or.inl (lastSegment_importer ▸ read))
  exact ⟨wellDeclared, file, member, type, sees, o, occurs, names, leads, qualified ▸ edge⟩

/-- The superclass is read without the import. -/
theorem superclass_misses_import :
    ∃ file ∈ importerFiles, ∃ type, SeesImport importerModel file type "b.N" ∧
      ∃ o ∈ (type.entity (FileContext.ofUnit file.1 file.2)).occurrences, o.Names "N" ∧
        o.target (Resolver.ofModel importerModel) = some "a.N" ∧
        ⟨"c.C", "a.N", .inherits⟩ ∈ (DependencyGraph.build importerModel).edges := by
  obtain ⟨file, member, type, sees, _, qualified, extended, _, leads⟩ := exists_importer
  have occurs : Occurrence.declared .inherits "N" ∈
      (type.entity (FileContext.ofUnit file.1 file.2)).occurrences := by
    simp [Entity.occurrences, extended]
  refine ⟨file, member, type, sees, _, occurs, congrArg some className_importer, leads, ?_⟩
  exact DependencyGraph.mem_edges.mpr ⟨_, sees.kept, qualified, _, occurs, rfl, leads⟩

end Java

end CodeSurvey
