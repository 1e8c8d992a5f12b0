import TypedClient.Yaml.Printer
import TypedClient.Yaml.Node.Grammar
import TypedClient.Text.Blank
import TypedClient.Json.Basic

/-!
# YAML values as JSON, and back

Reading a document from YAML drops its tags, turns numbers that JSON cannot write into null, and
gives every key a text: scalars their own, collections and tagged keys the text that writing them
gives. Keys that differ in YAML may agree as texts; then the later value takes the earlier place.
-/

namespace TypedClient.Yaml

/-- A number as JSON. -/
def Number.toJson : Yaml.Number → Json
  | .int n => .number (.int n)
  | .real x => .number (.real x)
  | .infinite _ => .null
  | .undefined => .null

namespace Value

/-- The text of a key. -/
def keyText : Value → String
  | .string s => s
  | .number n => n.text
  | .bool true => "true"
  | .bool false => "false"
  | .null => "null"
  | key => String.ofList (Text.trimEnd key.render.toList)

mutual

/-- A value as JSON. -/
def toJson : Value → Json
  | .null => .null
  | .bool b => .bool b
  | .number n => n.toJson
  | .string s => .string s
  | .sequence items => .array (toJsonItems items)
  | .mapping entries => .object (Json.Entries.ofList (toJsonEntries entries))
  | .tagged _ value => toJson value

/-- Items as JSON. -/
def toJsonItems : List Value → List Json
  | [] => []
  | item :: rest => toJson item :: toJsonItems rest

/-- Entries as JSON, before equal keys are brought together. -/
def toJsonEntries : List (Value × Value) → List (String × Json)
  | [] => []
  | (key, value) :: rest => (key.keyText, toJson value) :: toJsonEntries rest

end

mutual

/-- A JSON value as YAML. -/
def ofJson : Json → Value
  | .null => .null
  | .bool b => .bool b
  | .number (.int n) => .number (.int n)
  | .number (.real x) => .number (.real x)
  | .string s => .string s
  | .array items => .sequence (ofJsonItems items)
  | .object entries => .mapping (ofJsonEntries entries)

/-- JSON items as YAML. -/
def ofJsonItems : List Json → List Value
  | [] => []
  | item :: rest => ofJson item :: ofJsonItems rest

/-- JSON entries as YAML. -/
def ofJsonEntries : List (String × Json) → List (Value × Value)
  | [] => []
  | (key, value) :: rest => (.string key, ofJson value) :: ofJsonEntries rest

end

end Value

/-- The JSON value of the only document of a YAML text; a text without content is null. -/
def parseJson (text : String) : Except Fault Json := do
  match ← Node.parse text with
  | some root => return (← Value.ofNode root).toJson
  | none => return .null

end TypedClient.Yaml
