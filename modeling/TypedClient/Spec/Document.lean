import TypedClient.Spec.Lookup
import TypedClient.Spec.Location
import TypedClient.Json.Printer
import TypedClient.Digest.Sha256

/-!
# API documents

A document is an untyped tree, as a rule an OpenAPI or Swagger description of an HTTP API. Entries
keep the order of the text, and everything that is generated follows that order.
-/

namespace TypedClient

/-- An API description as an untyped tree. -/
structure Document where
  root : Json

namespace Document

/-- Looks a key up at the top level. -/
def lookup (doc : Document) (key : String) : Lookup Json :=
  .field doc.root key

/-- The `paths` object. -/
def paths (doc : Document) : Lookup Json.Entries :=
  (doc.lookup "paths").object

/-- The version text under `openapi`, else the one under `swagger`. -/
def version (doc : Document) : Option String :=
  (doc.lookup "openapi").string.found? <|> (doc.lookup "swagger").string.found?

/-- The title in `info`. -/
def title (doc : Document) : Option String :=
  ((doc.lookup "info").get "title").string.found?

/-- The value that the local reference of `value` names, if it has one that leads somewhere. -/
def target? (doc : Document) (value : Json) : Option Json :=
  match (Lookup.field value "$ref").string with
  | .found reference =>
    match reference.toList with
    | '#' :: pointer => doc.root.resolve pointer
    | _ => none
  | _ => none

/-- Follows a local reference one level. A value without one, and a value whose reference leads
nowhere, stay as they are. -/
def deref (doc : Document) (value : Json) : Json :=
  (doc.target? value).getD value

/-- The compact JSON text of the document, in source order. -/
def canonical (doc : Document) : String :=
  doc.root.compact

/-- The digest of the canonical text. -/
def fingerprint (doc : Document) : String :=
  Digest.sha256 doc.canonical

end Document

end TypedClient
