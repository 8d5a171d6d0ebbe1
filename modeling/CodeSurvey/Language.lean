import CodeSurvey.Path

namespace CodeSurvey

inductive Language where
  | java
  deriving DecidableEq, Inhabited, Repr

namespace Language

def name : Language → String
  | java => "java"

def extensions : Language → List String
  | java => ["java"]

/-- The language of an extension, in upper or lower case. -/
def ofExtension? (ext : String) : Option Language :=
  if ext.toList.map Char.toLower == "java".toList then some .java else none

/-- The language of a file, or the extension that is not known. -/
def ofPath (path : String) : Except String Language :=
  match Path.extension? path with
  | none => .error "none"
  | some ext =>
    match ofExtension? ext with
    | some language => .ok language
    | none => .error ext

end Language

end CodeSurvey
