import CodeSurvey.Text.Blank

namespace CodeSurvey

namespace TypeText

/-- Drops every group of three dots at the beginning. -/
def dropEllipses : List Char → List Char
  | '.' :: '.' :: '.' :: rest => dropEllipses rest
  | cs => cs

/-- Drops every group of three dots at the end: the mark of a variable number of arguments. -/
def dropFinalEllipses (cs : List Char) : List Char :=
  (dropEllipses cs.reverse).reverse

def opensArguments (c : Char) : Bool :=
  c == '<' || c == '['

/-- The outermost class of a written type, without arguments, brackets and trailing dots. -/
def className (written : String) : String :=
  let outer := (Text.trim written.toList).takeWhile fun c => !opensArguments c
  String.ofList (Text.trim (dropFinalEllipses outer))

/-- What may stand between two class names of a written type. -/
def isSeparator (c : Char) : Bool :=
  c == '<' || c == '>' || c == ',' || c == '[' || c == ']' || c == '&' || c == '?' || isBlank c

def primitives : List String :=
  ["void", "boolean", "byte", "char", "short", "int", "long", "float", "double", "var"]

/-- Built-in types, which name no entity. -/
def isPrimitive (name : String) : Bool :=
  primitives.contains name

/-- The words of a written type that bound or mark it and name no class. -/
def boundWords : List String :=
  ["extends", "super", "final"]

/-- Every class name in a written type, outermost first. -/
def classNames (written : String) : List String :=
  ((Text.splitWhere isSeparator written.toList).map fun piece =>
    String.ofList (dropFinalEllipses piece)).filter fun name =>
      !name.isEmpty && !boundWords.contains name && !isPrimitive name

end TypeText

end CodeSurvey
