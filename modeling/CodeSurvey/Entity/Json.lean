import CodeSurvey.Entity.Model
import CodeSurvey.Json.Decode

namespace CodeSurvey

open Json (Fields)

/-- An entry that is left out when there is nothing to write. -/
def optionalEntry (key : String) (value : Option String) : List (String × Json) :=
  match value with
  | some text => [(key, .str text)]
  | none => []

/-- An entry that is left out when the list is empty. -/
def listEntry (key : String) (items : List α) (write : α → Json) : List (String × Json) :=
  if items.isEmpty then [] else [(key, Json.list items write)]

def EntityKind.words : List (String × EntityKind) :=
  [("class", .classType), ("interface", .interfaceType), ("enum", .enumType), ("record", .recordType)]

def Visibility.words : List (String × Visibility) :=
  [("public", .pub), ("protected", .prot), ("private", .priv), ("package", .pkg)]

def MemberKind.words : List (String × MemberKind) :=
  [("field", .field), ("method", .method), ("constructor", .constructor)]

def ReferenceKind.words : List (String × ReferenceKind) :=
  [("method_call", .methodCall), ("instantiation", .instantiation), ("field_access", .fieldAccess),
    ("type_use", .typeUse)]

namespace Reference

def toJson (r : Reference) : Json :=
  .obj ([("kind", .str r.kind.text)] ++ optionalEntry "target" r.target ++
    optionalEntry "member" r.member ++ optionalEntry "resolved" r.resolved)

def ofJson? (value : Json) : Option Reference := do
  let fields ← value.toFields? 4
  return {
    kind := ← fields.required 0 "kind" (Json.toWord? ReferenceKind.words)
    target := ← fields.optional 1 "target" Json.toString?
    member := ← fields.optional 2 "member" Json.toString?
    resolved := ← fields.optional 3 "resolved" Json.toString? }

end Reference

namespace Parameter

def toJson (p : Parameter) : Json :=
  .obj [("name", .str p.name), ("type_name", .str p.typeName)]

def ofJson? (value : Json) : Option Parameter := do
  let fields ← value.toFields? 2
  return {
    name := ← fields.required 0 "name" Json.toString?
    typeName := ← fields.required 1 "type_name" Json.toString? }

end Parameter

namespace Member

def toJson (m : Member) : Json :=
  .obj ([("kind", .str m.kind.text), ("name", .str m.name)] ++ optionalEntry "type_name" m.typeName ++
    listEntry "parameters" m.parameters Parameter.toJson ++
    [("visibility", .str m.visibility.text), ("is_static", .bool m.isStatic),
      ("is_abstract", .bool m.isAbstract)] ++
    listEntry "annotations" m.annotations Json.str ++ optionalEntry "body" m.body ++
    [("complexity", .nat m.complexity), ("line_count", .nat m.lineCount)] ++
    listEntry "references" m.references Reference.toJson ++
    listEntry "accessed_fields" m.accessedFields Json.str)

def ofJson? (value : Json) : Option Member := do
  let fields ← value.toFields? 13
  return {
    kind := ← fields.required 0 "kind" (Json.toWord? MemberKind.words)
    name := ← fields.required 1 "name" Json.toString?
    typeName := ← fields.optional 2 "type_name" Json.toString?
    parameters := ← fields.withDefault 3 "parameters" [] (Json.toList? Parameter.ofJson?)
    visibility := ← fields.required 4 "visibility" (Json.toWord? Visibility.words)
    isStatic := ← fields.required 5 "is_static" Json.toBool?
    isAbstract := ← fields.required 6 "is_abstract" Json.toBool?
    annotations := ← fields.withDefault 7 "annotations" [] Json.toStrings?
    body := ← fields.optional 8 "body" Json.toString?
    complexity := ← fields.required 9 "complexity" Json.toCount?
    lineCount := ← fields.required 10 "line_count" Json.toCount?
    references := ← fields.withDefault 11 "references" [] (Json.toList? Reference.ofJson?)
    accessedFields := ← fields.withDefault 12 "accessed_fields" [] Json.toStrings? }

end Member

namespace Entity

def toJson (e : Entity) : Json :=
  .obj [("qualified_name", .str e.qualifiedName), ("name", .str e.name), ("package", .str e.package),
    ("file_path", .str e.filePath), ("kind", .str e.kind.text), ("is_abstract", .bool e.isAbstract),
    ("is_static", .bool e.isStatic), ("annotations", Json.strings e.annotations),
    ("extends", Json.strings e.extended), ("implements", Json.strings e.implemented),
    ("members", Json.list e.members Member.toJson),
    ("references", Json.list e.references Reference.toJson),
    ("start_line", .nat e.startLine), ("end_line", .nat e.endLine)]

def ofJson? (value : Json) : Option Entity := do
  let fields ← value.toFields? 14
  return {
    qualifiedName := ← fields.required 0 "qualified_name" Json.toString?
    name := ← fields.required 1 "name" Json.toString?
    package := ← fields.required 2 "package" Json.toString?
    filePath := ← fields.required 3 "file_path" Json.toString?
    kind := ← fields.required 4 "kind" (Json.toWord? EntityKind.words)
    isAbstract := ← fields.required 5 "is_abstract" Json.toBool?
    isStatic := ← fields.required 6 "is_static" Json.toBool?
    annotations := ← fields.withDefault 7 "annotations" [] Json.toStrings?
    extended := ← fields.withDefault 8 "extends" [] Json.toStrings?
    implemented := ← fields.withDefault 9 "implements" [] Json.toStrings?
    members := ← fields.withDefault 10 "members" [] (Json.toList? Member.ofJson?)
    references := ← fields.withDefault 11 "references" [] (Json.toList? Reference.ofJson?)
    startLine := ← fields.required 12 "start_line" Json.toCount?
    endLine := ← fields.required 13 "end_line" Json.toCount? }

end Entity

namespace Model

def toJson (model : Model) : Json :=
  .obj [("entities", Json.map model.entities Entity.toJson)]

def ofJson? (value : Json) : Option Model := do
  let fields ← value.toFields? 1
  return ⟨← fields.required 0 "entities" (Json.toMap? Entity.ofJson?)⟩

end Model

namespace SkippedFile

def toJson (file : SkippedFile) : Json :=
  .obj [("path", .str file.path), ("reason", .str file.reason)]

def ofJson? (value : Json) : Option SkippedFile := do
  let fields ← value.toFields? 2
  return {
    path := ← fields.required 0 "path" Json.toString?
    reason := ← fields.required 1 "reason" Json.toString? }

end SkippedFile

end CodeSurvey
