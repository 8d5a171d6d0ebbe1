import Std.Data.ExtTreeMap
import Std.Data.ExtTreeSet
import CodeSurvey.Text.Blank

namespace CodeSurvey

/-- A finite map from names, in ascending order of the names. -/
abbrev NameMap (α : Type) : Type := Std.ExtTreeMap String α compare

/-- A finite set of names, in ascending order. -/
abbrev NameSet : Type := Std.ExtTreeSet String compare

namespace Name

/-- A simple name within a package; the empty package adds nothing. -/
def qualify (package name : String) : String :=
  if package.isEmpty then name else package ++ "." ++ name

/-- What stands before and after the last dot, when there is one. -/
def splitLast : List Char → Option (List Char × List Char)
  | [] => none
  | c :: rest =>
    match splitLast rest with
    | some (front, last) => some (c :: front, last)
    | none => if c = '.' then some ([], rest) else none

/-- The package part of a qualified name, empty when it has none. -/
def packageOf (name : String) : String :=
  match splitLast name.toList with
  | some (front, _) => String.ofList front
  | none => ""

/-- The part of a dotted name after its last dot. -/
def lastSegment (name : String) : String :=
  match splitLast name.toList with
  | some (_, last) => String.ofList last
  | none => name

/-- The longest beginning of a text that takes at most `room` bytes in UTF-8. -/
def takeBytes : Nat → List Char → List Char
  | _, [] => []
  | room, c :: rest =>
    if c.utf8Size ≤ room then c :: takeBytes (room - c.utf8Size) rest else []

def truncate (text : String) (room : Nat) : String :=
  String.ofList (takeBytes room text.toList)

/-- A text that does not fit is cut and marked by three dots beyond the room. -/
def truncateMarked (text : String) (room : Nat) : String :=
  if text.utf8ByteSize ≤ room then text else truncate text room ++ "..."

def segments (name : String) : List String :=
  (Text.splitWhere (· == '.') name.toList).map String.ofList

/-- The first character of a segment; an empty segment stays empty. -/
def initial (segment : String) : String :=
  String.ofList (segment.toList.take 1)

/-- The name with its first `k` segments cut to their initials. -/
def initials (parts : List String) (k : Nat) : String :=
  ".".intercalate ((parts.take k).map initial ++ parts.drop k)

/-- Shortens as few leading segments as needed to fit; the last segment is never shortened to an
initial but cut when it alone is too long. -/
def abbreviate (name : String) (room : Nat) : String :=
  if name.utf8ByteSize ≤ room then name
  else
    let parts := segments name
    let forms := (List.range (parts.length - 1)).map fun k => initials parts (k + 1)
    match forms.find? fun form => form.utf8ByteSize ≤ room with
    | some form => form
    | none => truncateMarked (parts.getLastD name) room

end Name

end CodeSurvey
