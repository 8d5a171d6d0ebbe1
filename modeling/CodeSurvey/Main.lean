import CodeSurvey.CommandLine.Run

namespace CodeSurvey

namespace CommandLine

/-- The variables of the environment that a run may look at. -/
def environmentNames : List String :=
  ["DEPSIGHT_OUTPUT", "DEPSIGHT_CONFIG", "DEPSIGHT_THRESHOLD", "DEPSIGHT_MIN_BODY_LENGTH",
    "DEPSIGHT_CYCLES", "DEPSIGHT_THREADS", "DEPSIGHT_CACHE", "XDG_CACHE_HOME", "HOME"]

def readEnvironment : IO (NameMap String) :=
  environmentNames.foldlM (fun found name => do
    match ← IO.getEnv name with
    | some value => return found.insert name value
    | none => return found) ∅

/-- The place of a path, with the names of links and dots followed where it exists. -/
def placeOf (here : Location) (path : String) : IO Location := do
  let path := if Path.isAbsolute path then path else Path.join here.text path
  let real ← try IO.FS.realPath path catch _ => pure path
  return (Path.pieces real.toString).filter fun piece => piece != "" && piece != "."

def addDirectories (tree : FileTree) (location : Location) : FileTree :=
  (List.range location.length).foldl (fun tree depth =>
    tree.insertIfNew (location.take (depth + 1)) .directory) tree

/-- Adds what stands at a place, without what stands below it. -/
def addPlace (tree : FileTree) (location : Location) : IO FileTree := do
  let path := (← IO.currentDir).join location.text
  if ← path.isDir then return addDirectories tree location
  else if ← path.pathExists then
    let bytes ← IO.FS.readBinFile path
    let modified := (← path.metadata).modified.sec.toNat
    return (addDirectories tree location.dropLast).insert location (.file bytes modified)
  else return tree

/-- Adds the ignore rules that a directory holds. -/
def addRules (tree : FileTree) (directory : Location) : IO FileTree := do
  [[".ignore"], [".gitignore"], [".git"], [".git", "info", "exclude"]].foldlM
    (fun tree names => addPlace tree (directory ++ names)) tree

/-- Adds a directory with what stands below it; `descend` says which directories are entered, and `keep`
which files are read. -/
partial def addBelow (descend keep : String → Bool) (tree : FileTree) (location : Location) :
    IO FileTree := do
  let path := (← IO.currentDir).join location.text
  if !(← path.isDir) then return ← addPlace tree location
  let mut tree ← addRules (addDirectories tree location) location
  for entry in ← path.readDir do
    let place := location ++ [entry.fileName]
    if ← entry.path.isDir then
      if descend entry.fileName then tree ← addBelow descend keep tree place
    else if keep entry.fileName then tree ← addPlace tree place
  return tree

def projectOf (invocation : Invocation) : String :=
  match invocation.command with
  | .analyze _ project _ => project
  | .summary project => project
  | .clearCache project => project

/-- The files that a run may look at. -/
def readFiles (environment : NameMap String) (invocation : Invocation) : IO FileSystem := do
  let here ← placeOf [] (← IO.currentDir).toString
  let root ← placeOf here (projectOf invocation)
  let tree ← addBelow (fun name => !isPassedOver name)
    (fun name => SourceFile.hasLanguage name || name == Config.fileName) (addDirectories ∅ here) root
  let above := (List.range root.length).map root.take
  let tree ← above.foldlM addRules tree
  let output ← placeOf here invocation.output
  let targets := ["dependencies.json", "metrics.json", "graph.json", "patterns.json", "analysis.json"]
  let tree ← (output :: targets.map fun name => output ++ [name]).foldlM addPlace tree
  let tree ← match invocation.config with
    | some path => do addPlace tree (← placeOf here path)
    | none => pure tree
  let files : FileSystem := { tree, here }
  match Cache.ofProject (cacheBase environment) files root.text with
  | .ok cache =>
    let directory ← placeOf here cache.directory
    return { files with tree := ← addBelow (fun _ => true) (fun _ => true) tree directory }
  | .error _ => return files

def isUnchanged (before : FileTree) (location : Location) (node : FileNode) : Bool :=
  match before.get? location, node with
  | some .directory, .directory => true
  | some (.file old time), .file new modified => time == modified && old == new
  | _, _ => false

/-- Makes the disk agree with a tree that was read from it as `before`. -/
def writeFiles (before after : FileTree) : IO Unit := do
  for (location, node) in before.toList.reverse do
    if !after.contains location then
      match node with
      | .directory => IO.FS.removeDir location.text
      | .file _ _ => IO.FS.removeFile location.text
  for (location, node) in after.toList do
    if !isUnchanged before location node then
      match node with
      | .directory => IO.FS.createDirAll location.text
      | .file bytes _ => IO.FS.writeBinFile location.text bytes

/-- A run from the command line; the result is the exit status. -/
def runOnDisk (words : List String) : IO UInt32 := do
  let environment ← readEnvironment
  let files ← match Invocation.read environment words with
    | .ok invocation => readFiles environment invocation
    | .error _ => pure {}
  let outcome := execute environment files words
  writeFiles files.tree outcome.files.tree
  IO.print outcome.output
  for message in outcome.error do
    IO.eprintln message
  return outcome.status.toUInt32

end CommandLine

end CodeSurvey

def main (args : List String) : IO UInt32 :=
  CodeSurvey.CommandLine.runOnDisk args
