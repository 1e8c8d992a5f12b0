import TypedClient.Operation.FileField
import TypedClient.Operation.Placeholder
import TypedClient.Log

/-!
# Operations of a document

Each slot of the `paths` object has one outcome: an operation, or the reason why there is none. A
malformed entry costs only its own slot, and the outcomes stand in the order of the paths and, within
a path, in that of `Method.all`. A slot that is empty has no outcome.
-/

namespace TypedClient

/-- Why there is no operation where one could be. -/
inductive Skip
  /-- `paths` is no object. -/
  | paths
  /-- The item of the path is no object. -/
  | item (path : String)
  /-- What fills the slot is no object. -/
  | operation (slot : Slot)
  /-- The operation has no id. -/
  | unnamed (slot : Slot)
deriving DecidableEq, Repr

namespace Skip

/-- Where it happened. -/
def pointer : Skip → String
  | paths => "/paths"
  | item path => pathPointer path
  | operation slot => slot.pointer
  | unnamed slot => slot.pointer

/-- What was wrong. -/
def reason : Skip → String
  | paths => "not an object"
  | item _ => "path item is not an object"
  | operation _ => "operation is not an object"
  | unnamed _ => "missing operationId, no accessor will be generated"

/-- The warning about it. -/
def message (skip : Skip) : Log.Message :=
  ⟨.warn, "skipping " ++ skip.pointer ++ ": " ++ skip.reason⟩

end Skip

namespace Operation

/-- The id of an operation: its `operationId`, if that is a non-empty string. -/
def id? (entries : Json.Entries) : Option String :=
  match (Lookup.entry entries "operationId").string with
  | .found id => if id = "" then none else some id
  | _ => none

/-- A string entry, or the empty text. -/
def textEntry (entries : Json.Entries) (key : String) : String :=
  (Lookup.entry entries key).string.found?.getD ""

/-- Whether a parameter of the operation stands in the query. -/
def declaresQuery (doc : Document) (entries : Json.Entries) : Bool :=
  match (Lookup.entry entries "parameters").array with
  | .found parameters =>
    parameters.any fun parameter =>
      (Lookup.field (doc.deref parameter) "in").string.found? = some "query"
  | _ => false

/-- The content type that a body is sent with: JSON if it is offered, else a form, else whichever is
offered first. -/
def preferredType (content : Json.Entries) : Option String :=
  if content.contains "application/json" then some "application/json"
  else if content.contains multipartType then some multipartType
  else content.keys.head?

/-- The content that the body of an operation offers, by content type. -/
def content? (doc : Document) (entries : Json.Entries) : Option Json.Entries :=
  match entries.get? "requestBody" with
  | none => none
  | some body => (Lookup.field (doc.deref body) "content").object.found?

/-- The file fields of a body that is sent as a form. -/
def formFields (doc : Document) (content : Json.Entries) : List FileField :=
  match (Lookup.entry content multipartType).get "schema" with
  | .found schema => FileField.ofSchema doc schema
  | _ => []

/-- The content type of the body and its file fields. -/
def body (doc : Document) (entries : Json.Entries) : Option String × List FileField :=
  match content? doc entries with
  | none => (none, [])
  | some content =>
    match preferredType content with
    | none => (none, [])
    | some type => (some type, if type = multipartType then formFields doc content else [])

/-- Whether the operation has a body: a `requestBody` that counts as true. -/
def declaresBody (entries : Json.Entries) : Bool :=
  match entries.get? "requestBody" with
  | some body => body.truthy
  | none => false

/-- The operation with the given id and entries. -/
def ofEntries (doc : Document) (slot : Slot) (id : String) (entries : Json.Entries) : Operation :=
  let (bodyType?, fileFields) := if declaresBody entries then body doc entries else (none, [])
  { id
    method := slot.method
    path := slot.path
    pathParams := Placeholder.names slot.path
    hasBody := declaresBody entries
    hasQuery := declaresQuery doc entries
    summary := textEntry entries "summary"
    description := textEntry entries "description"
    bodyType?
    fileFields }

end Operation

namespace Document

/-- The outcome of a slot whose path has an item with the given entries. -/
def slotOutcome (doc : Document) (item : Json.Entries) (slot : Slot) :
    Option (Except Skip Operation) :=
  match (Lookup.entry item slot.method.word).object with
  | .missing => none
  | .misshapen _ => some (.error (.operation slot))
  | .found entries =>
    match Operation.id? entries with
    | none => some (.error (.unnamed slot))
    | some id => some (.ok (.ofEntries doc slot id entries))

/-- The outcomes of a path. -/
def pathOutcomes (doc : Document) (path : String) (item : Json) : List (Except Skip Operation) :=
  match item with
  | .object entries => Method.all.filterMap fun method => doc.slotOutcome entries ⟨path, method⟩
  | _ => [.error (.item path)]

/-- The outcomes of all slots, in order. -/
def outcomes (doc : Document) : List (Except Skip Operation) :=
  match doc.paths with
  | .found paths => paths.flatMap fun (path, item) => doc.pathOutcomes path item
  | .missing => []
  | .misshapen _ => [.error .paths]

/-- The operations of a document. -/
def operations (doc : Document) : List Operation :=
  doc.outcomes.filterMap fun outcome =>
    match outcome with
    | .ok op => some op
    | .error _ => none

/-- What was skipped on the way. -/
def skips (doc : Document) : List Skip :=
  doc.outcomes.filterMap fun outcome =>
    match outcome with
    | .ok _ => none
    | .error skip => some skip

/-- What the extraction has to say: a warning for all that was skipped and, if there were paths to go
through, the number of operations. -/
def extractionLog (doc : Document) : List Log.Message :=
  doc.skips.map Skip.message ++
    if doc.paths.isFound then
      [⟨.debug, "extracted " ++ toString doc.operations.length ++ " operations"⟩]
    else []

end Document

end TypedClient
