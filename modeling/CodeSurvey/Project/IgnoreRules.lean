import CodeSurvey.Project.FileSystem
import CodeSurvey.Project.Glob

namespace CodeSurvey

/-- One rule. -/
structure IgnoreRule where
  glob : Glob
  /-- The rule takes back what an earlier one left out. -/
  keeps : Bool := false
  directoriesOnly : Bool := false

namespace IgnoreRule

/-- Blanks at the end of a line do not count, unless the last one is escaped. -/
def trimmed (line : List Char) : List Char :=
  if "\\ ".toList.isSuffixOf line then line else Text.trimEnd line

/-- A trailing slash, which restricts a rule to directories. -/
def splitDirectoryMark (pattern : List Char) : Bool × List Char :=
  match pattern.reverse with
  | '/' :: '\\' :: front => (true, front.reverse)
  | '/' :: front => (true, front.reverse)
  | _ => (false, pattern)

/-- A pattern without a slash fits names in every directory. -/
def atAnyDepth (pattern : List Char) : List Char :=
  if "**/".toList.isPrefixOf pattern || pattern == "**".toList then pattern
  else "**/".toList ++ pattern

/-- What stands below a directory does not include the directory. -/
def strictlyBelow (pattern : List Char) : List Char :=
  if "/**".toList.isSuffixOf pattern then pattern ++ "/*".toList else pattern

/-- The rule for a pattern whose marks in front have been read; `anchored` when it has to fit from the
directory of the rule on. -/
def ofPattern? (keeps anchored : Bool) (pattern : List Char) : Option IgnoreRule := do
  let (directoriesOnly, pattern) := splitDirectoryMark pattern
  let pattern := if anchored || pattern.contains '/' then pattern else atAnyDepth pattern
  let glob ← Glob.ofText? (strictlyBelow pattern)
  return { glob, keeps, directoriesOnly }

/-- The rule on a line. Comments, empty lines and malformed patterns are none. -/
def ofLine? (line : List Char) : Option IgnoreRule :=
  if line.head? == some '#' then none
  else
    match trimmed line with
    | [] => none
    | '\\' :: '!' :: rest => ofPattern? false false ('!' :: rest)
    | '\\' :: '#' :: rest => ofPattern? false false ('#' :: rest)
    | '!' :: '/' :: rest => ofPattern? true true rest
    | '!' :: rest => ofPattern? true false rest
    | '/' :: rest => ofPattern? false true rest
    | rest => ofPattern? false false rest

def fits (rule : IgnoreRule) (path : String) (isDirectory : Bool) : Bool :=
  (!rule.directoriesOnly || isDirectory) && rule.glob.matchesPath path

end IgnoreRule

/-- The bytes of each line, without line ends. -/
def lineBytes : List UInt8 → List (List UInt8)
  | [] => [[]]
  | b :: rest =>
    if b == 10 then [] :: lineBytes rest
    else
      match lineBytes rest with
      | [] => [[b]]
      | line :: lines => (b :: line) :: lines

/-- The text of a line without the return before its end. -/
def lineText? (bytes : List UInt8) : Option (List Char) := do
  let text ← String.fromUTF8? (ByteArray.mk bytes.toArray)
  match text.toList.reverse with
  | '\r' :: front => return front.reverse
  | _ => return text.toList

/-- A mark of the byte order at the beginning of a file does not belong to its text. -/
def withoutOrderMark (line : List Char) : List Char :=
  line.dropWhile (· == '\uFEFF')

/-- The lines of a file up to the first one that is no text. -/
def readableLines (bytes : ByteArray) : List (List Char) :=
  match ((lineBytes bytes.toList).map lineText?).takeWhile Option.isSome with
  | some first :: rest => withoutOrderMark first :: rest.filterMap id
  | lines => lines.filterMap id

def IgnoreRule.ofFile (bytes : ByteArray) : List IgnoreRule :=
  (readableLines bytes).filterMap IgnoreRule.ofLine?

/-- The rules that one directory holds. -/
structure DirectoryRules where
  general : List IgnoreRule := []
  repository : List IgnoreRule := []
  exclusions : List IgnoreRule := []
  /-- The directory is the top of a repository. -/
  hasRepository : Bool := false
  deriving Inhabited

/-- Whether rules leave out a path below them: none when no rule fits. -/
def verdict (rules : List IgnoreRule) (path : String) (isDirectory : Bool) : Option Bool :=
  (rules.reverse.find? fun rule => rule.fits path isDirectory).map fun rule => !rule.keeps

/-- The rules of all directories of a file system that hold some. -/
abbrev IgnoreRules := Std.ExtTreeMap Location DirectoryRules compare

namespace IgnoreRules

def update (rules : IgnoreRules) (directory : Location) (f : DirectoryRules → DirectoryRules) :
    IgnoreRules :=
  rules.insert directory (f ((rules.get? directory).getD {}))

def isRepositoryMark (location : Location) : Bool :=
  location.getLast? == some ".git"

/-- Adds what a file or directory says about the rules of a directory above it. -/
def addNode (rules : IgnoreRules) (location : Location) (node : FileNode) : IgnoreRules :=
  let rules :=
    if isRepositoryMark location then
      rules.update location.dropLast fun found => { found with hasRepository := true }
    else rules
  match node with
  | .directory => rules
  | .file bytes _ =>
    match location.reverse with
    | ".ignore" :: above =>
      rules.update above.reverse fun found => { found with general := IgnoreRule.ofFile bytes }
    | ".gitignore" :: above =>
      rules.update above.reverse fun found => { found with repository := IgnoreRule.ofFile bytes }
    | "exclude" :: "info" :: ".git" :: above =>
      rules.update above.reverse fun found => { found with exclusions := IgnoreRule.ofFile bytes }
    | _ => rules

def ofFiles (files : FileSystem) : IgnoreRules :=
  files.tree.foldl addNode ∅

/-- The directories above a place with their rules, nearest first. -/
def above (rules : IgnoreRules) (location : Location) : List (Nat × DirectoryRules) :=
  ((List.range location.length).map fun depth =>
    (depth, (rules.get? (location.take depth)).getD {})).reverse

/-- The directories up to the top of the nearest repository; none outside a repository. -/
def withinRepository (above : List (Nat × DirectoryRules)) : List (Nat × DirectoryRules) :=
  match above.find? fun d => d.2.hasRepository with
  | some (top, _) => above.takeWhile fun d => top ≤ d.1
  | none => []

/-- Whether the rules leave out a place. The rules of the nearest directory decide; those of `.ignore` files
come before those of `.gitignore`, and these before a repository's list of exclusions. -/
def leavesOut (rules : IgnoreRules) (location : Location) (isDirectory : Bool) : Bool :=
  let above := rules.above location
  let below (depth : Nat) : String := "/".intercalate (location.drop depth)
  let decide (among : List (Nat × DirectoryRules)) (part : DirectoryRules → List IgnoreRule) :
      Option Bool :=
    among.findSome? fun d => verdict (part d.2) (below d.1) isDirectory
  let repository := withinRepository above
  (((decide above (·.general)).or (decide repository (·.repository))).or
    (decide repository (·.exclusions))).getD false

end IgnoreRules

end CodeSurvey
