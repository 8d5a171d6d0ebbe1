import CodeSurvey.Java.Kind

namespace CodeSurvey

namespace Java

/-- A piece of text that is not divided further. `row` counts line feeds before it. -/
structure Leaf where
  gap : String
  text : String
  row : Nat
  deriving DecidableEq, Inhabited, Repr

/-- The row on which a leaf ends. -/
def Leaf.lastRow (leaf : Leaf) : Nat :=
  leaf.row + leaf.text.toList.count '\n'

inductive Tree where
  | leaf (role : Role) (kind : Kind) (content : Leaf)
  | node (role : Role) (kind : Kind) (children : List Tree)
  deriving Inhabited, Repr

namespace Tree

def kind : Tree → Kind
  | leaf _ kind _ => kind
  | node _ kind _ => kind

def role : Tree → Role
  | leaf role _ _ => role
  | node role _ _ => role

def withRole (role : Role) : Tree → Tree
  | leaf _ kind content => leaf role kind content
  | node _ kind children => node role kind children

def children : Tree → List Tree
  | leaf _ _ _ => []
  | node _ _ children => children

def isNamed (tree : Tree) : Bool :=
  tree.kind.isNamed

def namedChildren (tree : Tree) : List Tree :=
  tree.children.filter (·.isNamed)

/-- The first child that plays a role. -/
def child? (tree : Tree) (role : Role) : Option Tree :=
  tree.children.find? (·.role == role)

/-- All children that play a role. -/
def childrenAs (tree : Tree) (role : Role) : List Tree :=
  tree.children.filter (·.role == role)

/-- The first child of a kind. -/
def childOfKind? (tree : Tree) (kind : Kind) : Option Tree :=
  tree.children.find? (·.kind == kind)

mutual

/-- The leaves from left to right, each with its kind. -/
def leaves : Tree → List (Kind × Leaf)
  | leaf _ kind content => [(kind, content)]
  | node _ _ children => leavesOf children

def leavesOf : List Tree → List (Kind × Leaf)
  | [] => []
  | tree :: trees => leaves tree ++ leavesOf trees

end

mutual

/-- The node and all below it, a node before its children. -/
def preorder : Tree → List Tree
  | leaf role kind content => [leaf role kind content]
  | node role kind children => node role kind children :: preorderOf children

def preorderOf : List Tree → List Tree
  | [] => []
  | tree :: trees => preorder tree ++ preorderOf trees

end

/-- The text from the first to the last leaf. -/
def text (tree : Tree) : String :=
  match tree.leaves with
  | [] => ""
  | (_, first) :: rest => rest.foldl (fun text l => text ++ l.2.gap ++ l.2.text) first.text

mutual

/-- The leaves with a space in the place of every comment. -/
def shownLeaves : Tree → List Leaf
  | leaf _ kind content => [if kind.isComment then { content with text := " " } else content]
  | node _ kind children =>
    if kind.isComment then (leavesOf children).head?.toList.map fun first => { first.2 with text := " " }
    else shownLeavesOf children

def shownLeavesOf : List Tree → List Leaf
  | [] => []
  | tree :: trees => shownLeaves tree ++ shownLeavesOf trees

end

/-- The same text with every comment below the node replaced by a space. -/
def textWithoutComments : Tree → String
  | leaf _ _ content => content.text
  | node _ _ children =>
    match shownLeavesOf children with
    | [] => ""
    | first :: rest => rest.foldl (fun text l => text ++ l.gap ++ l.text) first.text

def firstRow (tree : Tree) : Nat :=
  match tree.leaves.head? with
  | some (_, first) => first.row
  | none => 0

def lastRow (tree : Tree) : Nat :=
  match tree.leaves.getLast? with
  | some (_, last) => last.lastRow
  | none => 0

/-- The number of lines that a node touches. -/
def lineCount (tree : Tree) : Nat :=
  tree.lastRow - tree.firstRow + 1

end Tree

end Java

end CodeSurvey
