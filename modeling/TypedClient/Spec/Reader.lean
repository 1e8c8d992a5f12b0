import TypedClient.Spec.Document
import TypedClient.Json.Reader
import TypedClient.Yaml.Json

/-!
# Reading API documents

A document comes as JSON or as YAML. When nothing says which, a text whose first character that is
no blank opens an object or an array is taken for JSON and any other for YAML. The root of a document
has to be an object.
-/

namespace TypedClient

/-- Why a text is not an API document. -/
inductive ParseFault
  | yaml (fault : Yaml.Fault)
  | json (fault : Json.Fault)
  /-- The root is no object; carries the name of its kind. -/
  | notAnObject (kind : String)

/-- What is wrong with the text, in words. -/
def ParseFault.message : ParseFault → String
  | .yaml fault => "failed to parse YAML: " ++ fault.message
  | .json fault => "failed to parse JSON: " ++ fault.message
  | .notAnObject kind => "spec document must be an object, found " ++ kind

namespace Document

/-- A document with the given root, which has to be an object. -/
def ofRoot (root : Json) : Except ParseFault Document :=
  match root with
  | .object entries => .ok ⟨.object entries⟩
  | other => .error (.notAnObject other.kind)

/-- Reads a document from JSON. -/
def ofJsonText (text : String) : Except ParseFault Document :=
  match Json.parse text with
  | .ok root => ofRoot root
  | .error fault => .error (.json fault)

/-- Reads a document from YAML. -/
def ofYamlText (text : String) : Except ParseFault Document :=
  match Yaml.parseJson text with
  | .ok root => ofRoot root
  | .error fault => .error (.yaml fault)

/-- Whether a text looks like JSON. -/
def looksLikeJson (text : String) : Bool :=
  match Text.trimStart text.toList with
  | c :: _ => c = '\x7b' || c = '['
  | [] => false

/-- Reads a document from a text of either format. -/
def ofText (text : String) : Except ParseFault Document :=
  if looksLikeJson text then ofJsonText text else ofYamlText text

end Document

end TypedClient
