import CodeSurvey.Language
import CodeSurvey.Project.IgnoreRules

namespace CodeSurvey

/-- Directories that hold no sources of the project itself. -/
def foreignDirectories : List String :=
  ["node_modules", "target", "dist", "build", "out", "bin", "coverage", "vendor"]

/-- Names that are passed over with all that stands below them: hidden ones and foreign
directories. -/
def isPassedOver (name : String) : Bool :=
  name.toList.head? == some '.' || foreignDirectories.contains name

/-- Whether the last name of a path is passed over; a path without one is not. -/
def Path.isPassedOver (path : String) : Bool :=
  match Path.fileName? path with
  | some name => CodeSurvey.isPassedOver name
  | none => false

/-- A source file: the names that lead to it from the root of its project, its path as the user sees
it, and what it holds. -/
structure SourceFile where
  names : Location
  path : String
  bytes : ByteArray
  modified : Nat

namespace SourceFile

def hasLanguage (path : String) : Bool :=
  ((Path.extension? path).bind Language.ofExtension?).isSome

/-- Whether a walk from a root reaches a file: no directory on the way, nor the file, is passed over or
left out. -/
def isReached (rules : IgnoreRules) (root names : Location) : Bool :=
  (List.range names.length).all fun depth =>
    let entry := names.take (depth + 1)
    !(entry.getLast?.any isPassedOver) &&
      !rules.leavesOut (root ++ entry) (depth + 1 < names.length)

def isWithin (depth : Option Nat) (names : Location) : Bool :=
  match depth with
  | some limit => names.length ≤ limit
  | none => true

/-- The source files of a directory, in the order of their names. -/
def ofDirectory (files : FileSystem) (root : Location) (path : String) (depth : Option Nat) :
    List SourceFile :=
  let rules := IgnoreRules.ofFiles files
  (files.filesBelow root).filterMap fun (names, bytes, modified) =>
    let path := names.foldl Path.join path
    if isWithin depth names && hasLanguage path && isReached rules root names then
      some { names, path, bytes, modified }
    else none

/-- The source files that a path stands for, at most so many levels deep: those of a directory, or the
file itself. -/
def collect (files : FileSystem) (path : String) (depth : Option Nat) : List SourceFile :=
  match files.find path with
  | .ok (root, .directory) => ofDirectory files root path depth
  | .ok (_, .file bytes modified) =>
    if hasLanguage path then [{ names := [], path, bytes, modified }] else []
  | .error _ => []

end SourceFile

end CodeSurvey
