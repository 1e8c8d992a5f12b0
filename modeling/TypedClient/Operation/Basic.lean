import TypedClient.Json.Basic

/-!
# Operations

An operation is one method of one path, as far as a client has to know it.
-/

namespace TypedClient

/-- The HTTP methods that operations have. Other verbs of a document are passed over. -/
inductive Method
  | get
  | post
  | put
  | delete
  | patch
deriving DecidableEq, Repr

namespace Method

/-- The methods in the order in which the operations of a path are listed. -/
def all : List Method :=
  [.get, .post, .put, .delete, .patch]

/-- The word for a method, in documents and in what is generated. -/
def word : Method → String
  | get => "get"
  | post => "post"
  | put => "put"
  | delete => "delete"
  | patch => "patch"

end Method

/-- How a field of a multipart body is sent. -/
inductive FieldKind
  /-- One binary payload. -/
  | file
  /-- An array of binary payloads. -/
  | fileArray
  /-- As it is declared. -/
  | plain
deriving DecidableEq, Repr

/-- The word for a kind of field. -/
def FieldKind.word : FieldKind → String
  | file => "file"
  | fileArray => "fileArray"
  | plain => "plain"

/-- A field of a multipart body. -/
structure FileField where
  name : String
  kind : FieldKind
deriving DecidableEq, Repr

/-- A slot for an operation: a path template and a method. -/
structure Slot where
  path : String
  method : Method
deriving DecidableEq, Repr

/-- Where the item of a path stands, for messages. -/
def pathPointer (path : String) : String :=
  "/paths/" ++ path

/-- Where a slot stands, for messages. -/
def Slot.pointer (slot : Slot) : String :=
  pathPointer slot.path ++ "/" ++ slot.method.word

/-- What is known of an operation. -/
structure Operation where
  id : String
  method : Method
  /-- The path template as it is written in the document, such as `/users/{id}`. -/
  path : String
  /-- The names of the path's placeholders, from left to right, with repeats. -/
  pathParams : List String
  hasBody : Bool
  hasQuery : Bool
  summary : String
  description : String
  /-- The content type of the body. -/
  bodyType? : Option String
  /-- The fields of a multipart body that carry files. -/
  fileFields : List FileField
deriving DecidableEq, Repr

namespace Operation

/-- The slot that an operation fills. -/
def slot (op : Operation) : Slot :=
  ⟨op.path, op.method⟩

/-- Whether the path has placeholders. -/
def hasPathParams (op : Operation) : Bool :=
  !op.pathParams.isEmpty

/-- The content type of bodies that are sent as forms. -/
def multipartType : String := "multipart/form-data"

/-- Whether the body is sent as a form. -/
def isMultipart (op : Operation) : Bool :=
  op.bodyType? = some multipartType

end Operation

/-! ## JSON -/

/-- A field with its name and kind. -/
def FileField.toJson (field : FileField) : Json :=
  .object [("name", .string field.name), ("kind", .string field.kind.word)]

/-- An operation as JSON. An unknown content type and an empty list of file fields are left out. -/
def Operation.toJson (op : Operation) : Json :=
  .object <|
    [("operationId", .string op.id), ("method", .string op.method.word), ("path", .string op.path),
      ("pathParams", .array (op.pathParams.map .string)), ("hasRequestBody", .bool op.hasBody),
      ("hasQueryParams", .bool op.hasQuery), ("summary", .string op.summary),
      ("description", .string op.description)] ++
    (match op.bodyType? with
      | some type => [("bodyContentType", .string type)]
      | none => []) ++
    (if op.fileFields.isEmpty then []
      else [("fileFields", .array (op.fileFields.map FileField.toJson))])

end TypedClient
