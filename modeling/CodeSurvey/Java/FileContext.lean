import CodeSurvey.Java.Tree
import CodeSurvey.Name
import CodeSurvey.Reference.TypeText

namespace CodeSurvey

namespace Java

/-- `imports` maps a simple name to the qualified name it was imported as. -/
structure FileContext where
  path : String
  package : String
  imports : NameMap String

namespace FileContext

def isName (tree : Tree) : Bool :=
  tree.kind == .identifier || tree.kind == .scopedIdentifier

/-- The name that a package or import declaration gives. -/
def declaredName (declaration : Tree) : Option String :=
  (declaration.namedChildren.find? isName).map (·.text)

/-- Imports of members and of whole packages name no single type. -/
def importsOneType (declaration : Tree) : Bool :=
  !Text.hasInfix "static ".toList declaration.text.toList &&
    (declaration.childOfKind? .asterisk).isNone

/-- What one top-level declaration adds. A later package or import of the same name wins. -/
def absorb (context : FileContext) (declaration : Tree) : FileContext :=
  match declaration.kind, declaredName declaration with
  | .packageDeclaration, some name => { context with package := name }
  | .importDeclaration, some name =>
    if importsOneType declaration then
      { context with imports := context.imports.insert (Name.lastSegment name) name }
    else context
  | _, _ => context

def ofUnit (path : String) (unit : Tree) : FileContext :=
  unit.children.foldl absorb ⟨path, "", ∅⟩

/-- The qualified name that a written type stands for as far as the file can tell: a dotted name
stands for itself, an imported one for its import, any other for a type of the file's package. -/
def hint (context : FileContext) (written : String) : Option String :=
  let base := TypeText.className written
  if base.isEmpty || TypeText.isPrimitive base then none
  else if base.toList.contains '.' then some base
  else some ((context.imports.get? base).getD (Name.qualify context.package base))

end FileContext

end Java

end CodeSurvey
