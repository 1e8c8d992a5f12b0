import TypedClient.Operation.Basic
import TypedClient.Spec.Document

/-!
# File fields

A field of a multipart body carries files if its name hints at one and its schema declares a string,
or an array whose items are strings.
-/

namespace TypedClient.FileField

/-- Words that hint at a file in the name of a field. -/
def hints : List String :=
  ["image", "file", "attachment", "upload", "document", "photo", "video", "media"]

/-- A word with its first letter capitalized. -/
def capitalize (word : String) : List Char :=
  match word.toList with
  | [] => []
  | c :: cs => c.toUpper :: cs

/-- Whether `word` stands somewhere in `cs`. -/
def occurs (word cs : List Char) : Bool :=
  word.isPrefixOf cs ||
    match cs with
    | [] => false
    | _ :: rest => occurs word rest

/-- Whether a name has a hint in it, as written or capitalized. -/
def isHinted (name : String) : Bool :=
  hints.any fun hint => occurs hint.toList name.toList || occurs (capitalize hint) name.toList

/-- Whether a schema declares a type: by its name, or by a list that holds it and besides it only
`null`. -/
def declares (schema : Json) (type : String) : Bool :=
  match Lookup.field schema "type" with
  | .found (.string name) => name = type
  | .found (.array names) =>
    names.any (fun name => name.text? = some type) &&
      names.all (fun name => name.text? = some type || name.text? = some "null")
  | _ => false

/-- How a field is sent, by its name and its schema. -/
def classify (name : String) (schema : Json) : FieldKind :=
  if !isHinted name then .plain
  else if declares schema "string" then .file
  else if declares schema "array" then
    match Lookup.field schema "items" with
    | .found items => if declares items "string" then .fileArray else .plain
    | _ => .plain
  else .plain

/-- The file fields of a body's schema, in the order of its properties. References are followed one
level, for the schema and for each property. -/
def ofSchema (doc : Document) (schema : Json) : List FileField :=
  match (Lookup.field (doc.deref schema) "properties").object with
  | .found properties =>
    properties.filterMap fun (name, property) =>
      match classify name (doc.deref property) with
      | .plain => none
      | kind => some ⟨name, kind⟩
  | _ => []

end TypedClient.FileField
