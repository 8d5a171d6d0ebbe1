import CodeSurvey.Text.Blank

namespace CodeSurvey

namespace Path

inductive Component where
  | root
  | here
  | up
  | name (text : String)
  deriving DecidableEq, Inhabited, Repr

def pieces (path : String) : List String :=
  (Text.splitWhere (· == '/') path.toList).map String.ofList

def isAbsolute (path : String) : Bool :=
  path.toList.head? == some '/'

/-- The component that a piece makes when it does not stand first. -/
def laterComponent? (piece : String) : Option Component :=
  if piece == "" || piece == "." then none
  else if piece == ".." then some .up
  else some (.name piece)

def components (path : String) : List Component :=
  match pieces path with
  | [] => []
  | first :: rest =>
    let start : List Component :=
      if isAbsolute path then [.root]
      else if first == "." then [.here]
      else (laterComponent? first).toList
    start ++ rest.filterMap laterComponent?

/-- The last component, when it is a name. -/
def fileName? (path : String) : Option String :=
  match (components path).getLast? with
  | some (.name text) => some text
  | _ => none

/-- What stands after the last dot of a file name; a dot at its beginning starts no extension. -/
def extensionOf? (fileName : String) : Option String :=
  let reversed := fileName.toList.reverse
  let ending := reversed.takeWhile (· != '.')
  match reversed.drop ending.length with
  | '.' :: _ :: _ => some (String.ofList ending.reverse)
  | _ => none

def extension? (path : String) : Option String :=
  (fileName? path).bind extensionOf?

/-- A path below another; an absolute one stands for itself. -/
def join (base path : String) : String :=
  if isAbsolute path || base.isEmpty then path
  else if base.toList.getLast? == some '/' then base ++ path
  else base ++ "/" ++ path

end Path

end CodeSurvey
