import CodeSurvey.Failure
import CodeSurvey.Path
import Std.Data.ExtTreeMap

namespace CodeSurvey

/-- The names on the way from the top of a file tree to a place in it. Ordered as lists, places come directory
by directory, so that `a/Z` stands before `a-b/H`. -/
abbrev Location := List String

/-- The path of a place from the top. -/
def Location.text (location : Location) : String :=
  "/" ++ "/".intercalate location

/-- What stands at a place. A file has a time of last change, in seconds. -/
inductive FileNode where
  | directory
  | file (bytes : ByteArray) (modified : Nat)

abbrev FileTree := Std.ExtTreeMap Location FileNode compare

structure FileSystem where
  tree : FileTree := ∅
  /-- Where relative paths begin. -/
  here : Location := []

namespace FileSystem

/-- The top is always a directory. -/
def node? (files : FileSystem) (location : Location) : Option FileNode :=
  if location.isEmpty then some .directory else files.tree.get? location

/-- One piece of a path, followed from a directory. -/
def follow (location : Location) (piece : String) : Location :=
  if piece == "" || piece == "." then location
  else if piece == ".." then location.dropLast
  else location ++ [piece]

def step (files : FileSystem) (location : Location) (piece : String) : Except FileError Location :=
  match files.node? location with
  | none => .error .notFound
  | some (.file _ _) => .error .notDirectory
  | some .directory => .ok (follow location piece)

/-- Where a path starts. -/
def start (files : FileSystem) (path : String) : Location :=
  if Path.isAbsolute path then [] else files.here

/-- The place a path leads to. All but the last name have to be directories on the way; nothing need
stand at the place itself. -/
def locate (files : FileSystem) (path : String) : Except FileError Location :=
  if path.isEmpty then .error .notFound
  else (Path.pieces path).foldlM files.step (files.start path)

/-- The place a path leads to, and what stands there. -/
def find (files : FileSystem) (path : String) : Except FileError (Location × FileNode) := do
  let location ← files.locate path
  match files.node? location with
  | some node => return (location, node)
  | none => throw .notFound

def contains (files : FileSystem) (path : String) : Bool :=
  (files.find path).isOk

def isDirectory (files : FileSystem) (path : String) : Bool :=
  match files.find path with
  | .ok (_, .directory) => true
  | _ => false

def isFile (files : FileSystem) (path : String) : Bool :=
  match files.find path with
  | .ok (_, .file _ _) => true
  | _ => false

def readBytes (files : FileSystem) (path : String) : Except FileError ByteArray := do
  match ← files.find path with
  | (_, .file bytes _) => return bytes
  | (_, .directory) => throw .isDirectory

def readText (files : FileSystem) (path : String) : Except FileError String := do
  match String.fromUTF8? (← files.readBytes path) with
  | some text => return text
  | none => throw .notText

def setNode (files : FileSystem) (location : Location) (node : FileNode) : FileSystem :=
  { files with tree := files.tree.insert location node }

/-- Puts a file at a path, in place of the file that stands there. -/
def write (files : FileSystem) (path : String) (bytes : ByteArray) (modified : Nat) :
    Except FileError FileSystem := do
  let location ← files.locate path
  match files.node? location with
  | some .directory => throw .isDirectory
  | _ => return files.setNode location (.file bytes modified)

/-- A directory at a place where nothing stands. -/
def fillGap (files : FileSystem) (location : Location) : FileSystem :=
  match files.node? location with
  | none => files.setNode location .directory
  | some _ => files

/-- Makes the directories that are missing on the way along a path, its last name included. -/
def makeDirectories (files : FileSystem) (path : String) : Except FileError FileSystem := do
  let (files, location) ← (Path.pieces path).foldlM (fun (files, location) piece => do
    let files := files.fillGap location
    return (files, ← files.step location piece)) (files, files.start path)
  match files.node? location with
  | some (.file _ _) => throw .alreadyExists
  | _ => return files.fillGap location

/-- Takes away a place with all that stands below it. -/
def erase (files : FileSystem) (location : Location) : FileSystem :=
  { files with tree := files.tree.filter fun place _ => !location.isPrefixOf place }

def remove (files : FileSystem) (path : String) : Except FileError FileSystem := do
  let (location, _) ← files.find path
  return files.erase location

/-- The files below a place with the names that lead to them from there, in the order of these
names. -/
def filesBelow (files : FileSystem) (top : Location) : List (Location × ByteArray × Nat) :=
  files.tree.toList.filterMap fun (location, node) =>
    match node with
    | .file bytes modified =>
      if top.isPrefixOf location && top.length < location.length then
        some (location.drop top.length, bytes, modified)
      else none
    | .directory => none

end FileSystem

end CodeSurvey
