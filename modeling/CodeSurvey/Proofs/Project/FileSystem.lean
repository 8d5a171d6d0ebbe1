import Mathlib.Data.List.Basic
import Mathlib.Data.List.Induction
import CodeSurvey.Project.FileSystem
import CodeSurvey.Proofs.Words

namespace CodeSurvey

theorem bind_eq_ok {ε α β : Type} {x : Except ε α} {f : α → Except ε β} {result : β} :
    (x >>= f) = .ok result ↔ ∃ value, x = .ok value ∧ f value = .ok result := by
  cases x with
  | error cause => exact ⟨nofun, nofun⟩
  | ok value =>
    refine ⟨fun given => ⟨value, rfl, given⟩, ?_⟩
    rintro ⟨_, ⟨⟩, given⟩
    exact given

namespace Path

/-- The name of an entry of a directory. -/
structure IsPlain (name : String) : Prop where
  nonempty : name ≠ ""
  noDot : name ≠ "."
  noDots : name ≠ ".."
  noSlash : '/' ∉ name.toList

theorem pieces_plain {name : String} (plain : IsPlain name) : pieces name = [name] := by
  have uncut : ∀ c ∈ name.toList, ¬(c == '/') := by
    intro c member
    rw [beq_iff_eq]
    rintro rfl
    exact plain.noSlash member
  rw [pieces, Text.splitWhere_of_uncut uncut, List.map_singleton, String.ofList_toList]

theorem pieces_append (front back : String) : pieces (front ++ "/" ++ back) = pieces front ++ pieces back := by
  have split : (front ++ "/" ++ back).toList = front.toList ++ '/' :: back.toList := by simp
  rw [pieces, split, Text.splitWhere_append rfl, List.map_append]
  rfl

theorem pieces_of_isAbsolute {path : String} (absolute : isAbsolute path) :
    ∃ rest, pieces path = "" :: rest := by
  obtain ⟨rest, split⟩ := List.head?_eq_some_iff.mp (beq_iff_eq.mp absolute)
  have whole : path = "" ++ "/" ++ String.ofList rest := by
    apply String.toList_inj.mp
    simp [split]
  exact ⟨pieces (String.ofList rest), by rw [whole, pieces_append]; rfl⟩

theorem exists_of_endsInSlash {base : String} (slash : base.toList.getLast? == some '/') :
    ∃ front, base = front ++ "/" := by
  obtain ⟨front, split⟩ := List.getLast?_eq_some_iff.mp (beq_iff_eq.mp slash)
  refine ⟨String.ofList front, String.toList_inj.mp ?_⟩
  simp [split]

/-- Below any path a plain name is the last piece. -/
theorem pieces_join (base : String) {name : String} (plain : IsPlain name) :
    ∃ front, pieces (join base name) = front ++ [name] := by
  unfold join
  split
  · exact ⟨[], pieces_plain plain⟩
  · split
    · next slash =>
      obtain ⟨front, rfl⟩ := exists_of_endsInSlash slash
      exact ⟨pieces front, by rw [pieces_append, pieces_plain plain]⟩
    · exact ⟨pieces base, by rw [pieces_append, pieces_plain plain]⟩

theorem pieces_intercalate {names : List String} (plain : ∀ name ∈ names, IsPlain name) (nonempty : names ≠ []) :
    pieces ("/".intercalate names) = names := by
  rw [pieces, String.toList_intercalate]
  exact Text.splitWhere_intercalate nonempty fun name member => (plain name member).noSlash

end Path

namespace Location

variable {location names : Location}

theorem isAbsolute_text (location : Location) : Path.isAbsolute location.text := by
  simp [Path.isAbsolute, Location.text]

theorem pieces_text (plain : ∀ name ∈ location, Path.IsPlain name) :
    Path.pieces location.text = "" :: if location = [] then [""] else location := by
  have split : location.text = "" ++ "/" ++ "/".intercalate location := rfl
  rw [split, Path.pieces_append]
  split
  · next empty => subst empty; rfl
  · next nonempty => rw [Path.pieces_intercalate plain nonempty]; rfl

/-- Names below a place make the path of a place. -/
theorem join_text (plain : ∀ name ∈ location, Path.IsPlain name) (plainBelow : ∀ name ∈ names, Path.IsPlain name)
    (nonempty : names ≠ []) : Path.join location.text ("/".intercalate names) = (location ++ names).text := by
  have relative : ¬Path.isAbsolute ("/".intercalate names) := by
    intro absolute
    obtain ⟨rest, split⟩ := Path.pieces_of_isAbsolute absolute
    rw [Path.pieces_intercalate plainBelow nonempty] at split
    exact (plainBelow "" (split ▸ List.mem_cons_self)).nonempty rfl
  have given : ¬(Path.isAbsolute ("/".intercalate names) || location.text.isEmpty) := by
    simp [relative, text]
  rw [Path.join, if_neg given]
  by_cases top : location = []
  · subst top
    rfl
  · have noSlash : ¬location.text.toList.getLast? == some '/' := by
      intro slash
      obtain ⟨front, split⟩ := Path.exists_of_endsInSlash slash
      have pieces : Path.pieces location.text = Path.pieces front ++ [""] := by
        rw [split, ← String.append_empty (s := front ++ "/"), Path.pieces_append]
        rfl
      rw [pieces_text plain, if_neg top] at pieces
      have last := congrArg List.getLast? pieces
      rw [List.getLast?_cons_of_ne_nil top, List.getLast?_concat] at last
      exact (plain "" (List.mem_of_getLast? last)).nonempty rfl
    rw [if_neg noSlash, text, text, String.intercalate_append_of_ne_nil top nonempty]
    simp [String.append_assoc]

theorem foldl_join_text (plain : ∀ name ∈ location, Path.IsPlain name)
    (plainBelow : ∀ name ∈ names, Path.IsPlain name) :
    names.foldl Path.join location.text = (location ++ names).text := by
  induction names generalizing location with
  | nil => rw [List.foldl_nil, List.append_nil]
  | cons name names ih =>
    have first : ∀ other ∈ [name], Path.IsPlain other := by
      simpa using plainBelow name List.mem_cons_self
    have joined := join_text plain first (List.cons_ne_nil _ _)
    rw [String.intercalate_singleton] at joined
    rw [List.foldl_cons, joined, ih (List.forall_mem_append.mpr ⟨plain, first⟩)
      fun other member => plainBelow other (List.mem_cons_of_mem name member), List.append_assoc]
    rfl

theorem components_text (plain : ∀ name ∈ location, Path.IsPlain name) :
    Path.components location.text = .root :: location.map .name := by
  have later : ∀ name ∈ location, Path.laterComponent? name = some (.name name) := by
    intro name member
    have plain := plain name member
    simp [Path.laterComponent?, plain.nonempty, plain.noDot, plain.noDots]
  rw [Path.components, pieces_text plain]
  dsimp only
  rw [if_pos (isAbsolute_text location)]
  split
  · next empty => subst empty; rfl
  · rw [List.filterMap_eq_map_iff_forall_eq_some.mpr later]
    rfl

end Location

namespace FileSystem

variable {files later : FileSystem} {location other : Location} {node : FileNode} {path : String}

theorem step_eq_ok {piece : String} : files.step location piece = .ok other ↔
    files.node? location = some .directory ∧ follow location piece = other := by
  unfold step
  split <;> simp_all

theorem follow_plain {name : String} (plain : Path.IsPlain name) : follow location name = location ++ [name] := by
  simp [follow, plain.nonempty, plain.noDot, plain.noDots]

theorem find_eq_ok :
    files.find path = .ok (location, node) ↔ files.locate path = .ok location ∧ files.node? location = some node := by
  rw [find, bind_eq_ok]
  constructor
  · rintro ⟨place, located, found⟩
    split at found
    · next present => cases found; exact ⟨located, present⟩
    · cases found
  · rintro ⟨located, present⟩
    exact ⟨location, located, by rw [present]; rfl⟩

/-- A plain name at the end of a path is the last name of the place. -/
theorem exists_of_locate_join {base name : String} (plain : Path.IsPlain name)
    (located : files.locate (Path.join base name) = .ok location) : ∃ front, location = front ++ [name] := by
  unfold locate at located
  split at located
  · cases located
  · obtain ⟨front, split⟩ := Path.pieces_join base plain
    rw [split, List.foldlM_append, bind_eq_ok] at located
    obtain ⟨place, _, last⟩ := located
    rw [List.foldlM_cons, bind_eq_ok] at last
    obtain ⟨final, stepped, done⟩ := last
    cases done
    exact ⟨place, (step_eq_ok.mp stepped).2.symm.trans (follow_plain plain)⟩

/-- Names are plain, and whatever stands somewhere stands in a directory. -/
structure WellFormed (files : FileSystem) : Prop where
  plain : ∀ {location node}, files.node? location = some node → ∀ name ∈ location, Path.IsPlain name
  inside : ∀ {location name node}, files.node? (location ++ [name]) = some node →
    files.node? location = some .directory

namespace WellFormed

theorem foldlM_step (wellFormed : files.WellFormed) (present : files.node? location = some node) :
    location.foldlM files.step [] = .ok location := by
  induction location using List.reverseRecOn generalizing node with
  | nil => rfl
  | append_singleton location name ih =>
    have directory := wellFormed.inside present
    have plain := wellFormed.plain present name (by simp)
    rw [List.foldlM_append, bind_eq_ok]
    refine ⟨location, ih directory, ?_⟩
    rw [List.foldlM_cons, bind_eq_ok]
    exact ⟨location ++ [name], step_eq_ok.mpr ⟨directory, follow_plain plain⟩, rfl⟩

/-- The path of a place from the top leads there. -/
theorem find_text (wellFormed : files.WellFormed) (present : files.node? location = some node) :
    files.find location.text = .ok (location, node) := by
  refine find_eq_ok.mpr ⟨?_, present⟩
  have nonempty : ¬location.text.isEmpty := by simp [Location.text]
  have top : files.step [] "" = .ok [] := rfl
  rw [locate, if_neg nonempty, start, if_pos location.isAbsolute_text,
    Location.pieces_text (wellFormed.plain present), List.foldlM_cons, top]
  split
  · next empty => subst empty; rfl
  · exact wellFormed.foldlM_step present

theorem find_text_of_find (wellFormed : files.WellFormed) (found : files.find path = .ok (location, node)) :
    files.find location.text = .ok (location, node) :=
  wellFormed.find_text (find_eq_ok.mp found).2

end WellFormed

theorem node?_of_ne_nil (nonempty : location ≠ []) : files.node? location = files.tree[location]? := by
  rw [node?, if_neg (by simpa using nonempty), Std.ExtTreeMap.get?_eq_getElem?]

theorem node?_setNode (nonempty : location ≠ []) :
    (files.setNode location node).node? other = if other = location then some node else files.node? other := by
  unfold node? setNode
  by_cases top : other = []
  · subst top
    simp [nonempty.symm]
  · simp only [List.isEmpty_iff, top, if_false, Std.ExtTreeMap.get?_eq_getElem?, Std.ExtTreeMap.getElem?_insert]
    by_cases same : other = location
    · simp [same]
    · have apart : ¬compare location other = .eq := fun equal => same (Std.LawfulEqCmp.eq_of_compare equal).symm
      simp [same, apart]

theorem ne_nil_of_node? (other : files.node? location ≠ some .directory) : location ≠ [] := by
  rintro rfl
  exact other rfl

theorem wellFormed_empty : WellFormed {} := by
  have top : ∀ {location : Location} {node}, node? {} location = some node → location = [] := by
    intro location node present
    by_contra nonempty
    rw [node?_of_ne_nil nonempty] at present
    cases present
  refine ⟨fun present => ?_, fun present => ?_⟩
  · simp [top present]
  · cases List.append_ne_nil_of_right_ne_nil _ (List.cons_ne_nil _ _) (top present)

/-- A tree to which something with a plain name is added in a directory stays well formed. -/
theorem WellFormed.setNode (wellFormed : files.WellFormed) (location : Location) (name : String)
    (directory : files.node? location = some .directory) (plain : Path.IsPlain name)
    (other : files.node? (location ++ [name]) ≠ some .directory) :
    (files.setNode (location ++ [name]) node).WellFormed := by
  have added {place : Location} : (files.setNode (location ++ [name]) node).node? place =
      if place = location ++ [name] then some node else files.node? place :=
    node?_setNode (ne_nil_of_node? other)
  have stays {place : Location} (above : files.node? place = some .directory) :
      (files.setNode (location ++ [name]) node).node? place = some .directory := by
    rw [added, if_neg, above]
    rintro rfl
    exact other above
  refine ⟨fun {place found} present => ?_, fun {place last found} present => ?_⟩
  · rw [added] at present
    split at present
    · next same =>
      rw [same, List.forall_mem_append]
      exact ⟨wellFormed.plain directory, by simpa using plain⟩
    · exact wellFormed.plain present
  · rw [added] at present
    split at present
    · next same =>
      obtain ⟨rfl, _⟩ := List.append_inj' same rfl
      exact stays directory
    · exact stays (wellFormed.inside present)

/-- Directories stay directories. -/
structure Keeps (files later : FileSystem) : Prop where
  here : later.here = files.here
  directory : ∀ {location}, files.node? location = some .directory → later.node? location = some .directory

namespace Keeps

theorem trans {last : FileSystem} (keeps : Keeps files later) (keepsLater : Keeps later last) :
    Keeps files last :=
  ⟨keepsLater.here.trans keeps.here, fun directory => keepsLater.directory (keeps.directory directory)⟩

theorem foldlM_step {pieces : List String} (keeps : Keeps files later)
    (walked : pieces.foldlM files.step location = .ok other) : pieces.foldlM later.step location = .ok other := by
  induction pieces generalizing location with
  | nil => exact walked
  | cons piece pieces ih =>
    rw [List.foldlM_cons, bind_eq_ok] at walked ⊢
    obtain ⟨next, stepped, walked⟩ := walked
    obtain ⟨directory, followed⟩ := step_eq_ok.mp stepped
    exact ⟨next, step_eq_ok.mpr ⟨keeps.directory directory, followed⟩, ih walked⟩

/-- A path that led somewhere leads there still. -/
theorem locate (keeps : Keeps files later) (located : files.locate path = .ok location) :
    later.locate path = .ok location := by
  unfold FileSystem.locate at located ⊢
  split at located
  · cases located
  · next nonempty =>
    have same : later.start path = files.start path := by rw [start, start, keeps.here]
    rw [if_neg nonempty, same]
    exact keeps.foldlM_step located

theorem find_directory (keeps : Keeps files later) (found : files.find path = .ok (location, .directory)) :
    later.find path = .ok (location, .directory) :=
  find_eq_ok.mpr ⟨keeps.locate (find_eq_ok.mp found).1, keeps.directory (find_eq_ok.mp found).2⟩

end Keeps

/-- All that stands somewhere stays there. -/
structure Extends (files later : FileSystem) : Prop where
  here : later.here = files.here
  node : ∀ {location node}, files.node? location = some node → later.node? location = some node

namespace Extends

theorem refl (files : FileSystem) : Extends files files :=
  ⟨rfl, id⟩

theorem trans {last : FileSystem} (grown : Extends files later) (grownLater : Extends later last) :
    Extends files last :=
  ⟨grownLater.here.trans grown.here, fun present => grownLater.node (grown.node present)⟩

theorem keeps (grown : Extends files later) : Keeps files later :=
  ⟨grown.here, grown.node⟩

theorem find (grown : Extends files later) (found : files.find path = .ok (location, node)) :
    later.find path = .ok (location, node) :=
  find_eq_ok.mpr ⟨grown.keeps.locate (find_eq_ok.mp found).1, grown.node (find_eq_ok.mp found).2⟩

end Extends

theorem extends_fillGap (files : FileSystem) (location : Location) : Extends files (files.fillGap location) := by
  unfold fillGap
  split
  · next gap =>
    refine ⟨rfl, fun {place found} present => ?_⟩
    have other : files.node? location ≠ some .directory := by
      rw [gap]
      exact nofun
    rw [node?_setNode (ne_nil_of_node? other), if_neg]
    · exact present
    · rintro rfl
      rw [gap] at present
      cases present
  · exact .refl files

/-- One piece of a path along which missing directories are made. -/
def makeStep (walk : FileSystem × Location) (piece : String) : Except FileError (FileSystem × Location) := do
  let files := walk.1.fillGap walk.2
  return (files, ← files.step walk.2 piece)

theorem extends_of_foldlM_makeStep {pieces : List String} {walk last : FileSystem × Location}
    (made : pieces.foldlM makeStep walk = .ok last) : Extends walk.1 last.1 := by
  induction pieces generalizing walk with
  | nil => cases made; exact .refl _
  | cons piece pieces ih =>
    rw [List.foldlM_cons, bind_eq_ok] at made
    obtain ⟨next, stepped, made⟩ := made
    obtain ⟨place, _, rest⟩ := bind_eq_ok.mp stepped
    cases rest
    exact (extends_fillGap walk.1 walk.2).trans (ih made)

theorem extends_of_makeDirectories (made : files.makeDirectories path = .ok later) : Extends files later := by
  change (Path.pieces path).foldlM makeStep (files, files.start path) >>= _ = _ at made
  obtain ⟨⟨walked, place⟩, along, done⟩ := bind_eq_ok.mp made
  dsimp only at done
  split at done
  · cases done
  · cases done
    exact (extends_of_foldlM_makeStep along).trans (extends_fillGap walked place)

section Write

variable {bytes : ByteArray} {modified : Nat}

theorem setNode_of_write (written : files.write path bytes modified = .ok later) :
    ∃ place, files.locate path = .ok place ∧ files.node? place ≠ some .directory ∧
      later = files.setNode place (.file bytes modified) := by
  obtain ⟨place, located, rest⟩ := bind_eq_ok.mp written
  split at rest
  · cases rest
  · next other =>
    cases rest
    exact ⟨place, located, other, rfl⟩

theorem keeps_of_write (written : files.write path bytes modified = .ok later) : Keeps files later := by
  obtain ⟨place, _, other, rfl⟩ := setNode_of_write written
  refine ⟨rfl, fun {location} directory => ?_⟩
  rw [node?_setNode (ne_nil_of_node? other), if_neg]
  · exact directory
  · rintro rfl
    exact other directory

theorem find_of_write (written : files.write path bytes modified = .ok later) :
    ∃ place, files.locate path = .ok place ∧ later.find path = .ok (place, .file bytes modified) := by
  have keeps := keeps_of_write written
  obtain ⟨place, located, other, rfl⟩ := setNode_of_write written
  refine ⟨place, located, find_eq_ok.mpr ⟨keeps.locate located, ?_⟩⟩
  rw [node?_setNode (ne_nil_of_node? other), if_pos rfl]

/-- Whatever stands at another place stays. -/
theorem find_of_write_elsewhere {elsewhere : String} (written : files.write path bytes modified = .ok later)
    (found : files.find elsewhere = .ok (location, node)) (apart : files.locate path ≠ .ok location) :
    later.find elsewhere = .ok (location, node) := by
  have keeps := keeps_of_write written
  obtain ⟨place, located, other, rfl⟩ := setNode_of_write written
  obtain ⟨led, present⟩ := find_eq_ok.mp found
  refine find_eq_ok.mpr ⟨keeps.locate led, ?_⟩
  rw [node?_setNode (ne_nil_of_node? other), if_neg]
  · exact present
  · rintro rfl
    exact apart located

end Write

theorem node?_of_mem_filesBelow {names : Location} {bytes : ByteArray} {modified : Nat}
    (member : (names, bytes, modified) ∈ files.filesBelow location) :
    names ≠ [] ∧ files.node? (location ++ names) = some (.file bytes modified) := by
  rw [filesBelow, List.mem_filterMap] at member
  obtain ⟨⟨place, found⟩, listed, kept⟩ := member
  rw [Std.ExtTreeMap.mem_toList_iff_getElem?_eq_some] at listed
  cases found with
  | directory => cases kept
  | file =>
    dsimp only at kept
    split at kept
    · next below =>
      cases kept
      rw [Bool.and_eq_true, List.isPrefixOf_iff_prefix, decide_eq_true_iff] at below
      obtain ⟨⟨names, rfl⟩, longer⟩ := below
      rw [List.length_append] at longer
      have nonempty : names ≠ [] := List.ne_nil_of_length_pos (by omega)
      rw [List.drop_left, node?_of_ne_nil (by simp [nonempty])]
      exact ⟨nonempty, listed⟩
    · cases kept

end FileSystem

end CodeSurvey
