import TypedClient.TypeScript.Call
import TypedClient.TypeScript.Comment
import TypedClient.TypeScript.Stem
import TypedClient.Operation.Index
import TypedClient.Operation.FileField
import TypedClient.Operation.Placeholder

/-!
# The module of operations

Each operation gets an accessor: a function under its id, and aliases for the types in its
signature. Operations with one id share an accessor; the last of them decides what it does and the
first of them where it stands. `accessors` says what the module declares, and `operations` writes it
down.
-/

namespace TypedClient.TypeScript

/-- A type under a name of its own. -/
structure Alias where
  name : String
  type : Ty

/-- An operation with the stem for the names of its types. -/
structure Accessor where
  operation : Operation
  stem : String

namespace Accessor

/-- The name of a type of the operation. -/
def typeName (accessor : Accessor) (suffix : String) : String :=
  accessor.stem ++ suffix

/-- A generic type at the path and method of the operation. -/
def keyed (accessor : Accessor) (name : String) : Ty :=
  .generic name [.literal accessor.operation.path, .literal accessor.operation.method.word]

/-- The fields of the record of path parameters. -/
def fields? (accessor : Accessor) : Option (List String) :=
  Placeholder.record? accessor.operation.pathParams

/-- The shape of the call. -/
def shape (accessor : Accessor) : CallShape :=
  .ofOperation accessor.operation

/-! ## Declarations -/

/-- The alias for the type of the answer. -/
def responseAlias (accessor : Accessor) : Alias :=
  ⟨accessor.typeName "Response", accessor.keyed "ResponseData"⟩

/-- The aliases of an operation. -/
def aliases (accessor : Accessor) : List Alias :=
  [accessor.responseAlias] ++
  (match accessor.fields? with
    | some fields =>
      [⟨accessor.typeName "PathParams", .object (fields.map (.mk · false .stringOrNumber))⟩]
    | none => []) ++
  (if accessor.operation.hasBody then
    [⟨accessor.typeName "Body", accessor.keyed "RequestBody"⟩] else []) ++
  (if accessor.operation.hasQuery then
    [⟨accessor.typeName "Query", accessor.keyed "QueryParams"⟩] else [])

/-- The type of the configuration. -/
def configType (accessor : Accessor) : Ty :=
  if accessor.operation.hasQuery then
    .generic "RequestConfig" [.ref (accessor.typeName "Query")]
  else .ref "RequestConfig"

/-- The parameters of an operation. -/
def params (accessor : Accessor) : List Parameter :=
  (match accessor.fields? with
    | some _ => [⟨CallShape.pathParamsName, false, .ref (accessor.typeName "PathParams")⟩]
    | none => []) ++
  (if accessor.operation.hasBody && accessor.shape.takesData then
    [⟨CallShape.dataName, false, .ref (accessor.typeName "Body")⟩] else []) ++
  [⟨CallShape.configName, true, accessor.configType⟩]

/-- The call of the transport. -/
def call (accessor : Accessor) : Expr :=
  .call (.member (.ident "client") accessor.operation.method.word)
    [.ref accessor.responseAlias.name] (accessor.shape.arguments accessor.operation.path)

/-- The type of what the accessor gives back. -/
def resultType (accessor : Accessor) : Ty :=
  .generic "Promise" [.generic "ApiResult" [.ref accessor.responseAlias.name]]

/-- The function of an operation. -/
def function (accessor : Accessor) : Expr :=
  .arrow accessor.params (some accessor.resultType) accessor.call

/-- The key of an operation. -/
def key (accessor : Accessor) : String :=
  Naming.propertyKey accessor.operation.id

/-! ## Text -/

/-- The lines that declare the aliases, and an empty line. -/
def aliasLines (accessor : Accessor) : List String :=
  (accessor.aliases.map fun type =>
    "export type " ++ type.name ++ " = " ++ type.type.text ++ ";") ++ [""]

/-- The line that says where the operation lives. -/
def indexLine (accessor : Accessor) : String :=
  "  " ++ accessor.key ++ ": \x7b path: " ++ literal accessor.operation.path ++
    "; method: \"" ++ accessor.operation.method.word ++ "\" \x7d;"

/-- The comment and the line of the function. -/
def functionLines (accessor : Accessor) : List String :=
  let operation := accessor.operation
  (Comment.text? operation.summary operation.description "    ").toList ++
    ["    " ++ accessor.key ++ ": " ++ accessor.function.text ++ ","]

end Accessor

/-- The accessors for operations. -/
def accessors (ops : List Operation) : List Accessor :=
  let index := Operation.Index.ofList ops
  List.zipWith Accessor.mk index (Stem.allocateAll Stem.reserved index.ids)

/-! ## Forms -/

/-- The word that tells how a field is sent, if it carries files. -/
def formWord? : FieldKind → Option String
  | .file => some "file"
  | .fileArray => some "files"
  | .plain => none

/-- A row of the table of forms: the slot of an operation, and its fields that carry files. -/
structure Form where
  slot : Slot
  fields : List (String × String)

/-- The row of an operation, if it has file fields. -/
def Form.ofOperation? (op : Operation) : Option Form :=
  if op.fileFields.isEmpty then none
  else
    some ⟨op.slot, op.fileFields.filterMap fun field =>
      (formWord? field.kind).map fun word => (field.name, word)⟩

/-- The key of a row. -/
def Form.key (form : Form) : String :=
  form.slot.method.word ++ " " ++ form.slot.path

/-- The line of a row. -/
def Form.line (form : Form) : String :=
  let fields := form.fields.map fun (name, word) =>
    Naming.propertyKey name ++ ": \"" ++ word ++ "\""
  "  " ++ literal form.key ++ ": \x7b " ++ join ", " fields ++ " \x7d,"

/-- The rows for operations. -/
def forms (ops : List Operation) : List Form :=
  (Operation.Index.ofList ops).filterMap Form.ofOperation?

/-! ## The module -/

/-- The type of the words that hint at files. -/
def hintUnion : Ty := .union (FileField.hints.map .literal)

namespace Module

/-- The lines before those of the operations. -/
def operationsHead (stamp typesImport : String) : List String :=
  [ "// Generated by acg at " ++ stamp ++ ". Do not edit.",
    "import type \x7b paths \x7d from \"" ++ typesImport ++ "\";",
    "import type \x7b ApiResult \x7d from \"./errors\";",
    "import type \x7b Transport, TransportConfig \x7d from \"./instance\";",
    "",
    "export type Method = \"get\" | \"post\" | \"put\" | \"delete\" | \"patch\";",
    "",
    "type Op<P extends keyof paths, M extends Method> = M extends keyof paths[P]",
    "  ? NonNullable<paths[P][M]>",
    "  : never;",
    "",
    "/** Property-name fragments that mark a multipart field as a file upload. */",
    "export type FileHint = " ++ hintUnion.text ++ ";",
    "",
    "type IsFileKey<K> = K extends `$\x7bstring\x7d$\x7bFileHint | " ++
      "Capitalize<FileHint>\x7d$\x7bstring\x7d`",
    "  ? true",
    "  : false;",
    "",
    "/** Retype file-like `string` / `string[]` fields of a multipart body to binary payloads. */",
    "export type RemapFiles<T> = \x7b",
    "  [K in keyof T]: IsFileKey<K> extends true",
    "    ? NonNullable<T[K]> extends string[]",
    "      ? Blob[]",
    "      : NonNullable<T[K]> extends string",
    "        ? Blob",
    "        : T[K]",
    "    : T[K];",
    "\x7d;",
    "",
    "type BodyContent<O> = O extends \x7b requestBody?: infer B \x7d",
    "  ? NonNullable<B> extends \x7b content: infer C \x7d",
    "    ? C",
    "    : never",
    "  : never;",
    "",
    "type PreferredBody<C> = [C] extends [never]",
    "  ? never",
    "  : C extends \x7b \"application/json\": infer J \x7d",
    "    ? J",
    "    : C extends \x7b \"multipart/form-data\": infer F \x7d",
    "      ? RemapFiles<F>",
    "      : never;",
    "",
    "/** Request body for a path and method: JSON first, then multipart with file fields " ++
      "remapped. */",
    "export type RequestBody<P extends keyof paths, M extends Method> = " ++
      "PreferredBody<BodyContent<Op<P, M>>>;",
    "",
    "/** Payload of one response object, preferring `application/json`. */",
    "export type JsonContent<R> = R extends \x7b content: \x7b \"application/json\": infer J " ++
      "\x7d \x7d",
    "  ? J",
    "  : R extends \x7b content: infer C \x7d",
    "    ? C[keyof C]",
    "    : unknown;",
    "",
    "type Responses<O> = O extends \x7b responses: infer R \x7d ? R : never;",
    "",
    "/** Success payload for a path and method: status 200, else 201. */",
    "export type ResponseData<P extends keyof paths, M extends Method> =",
    "  Responses<Op<P, M>> extends infer R",
    "    ? R extends \x7b 200: infer S \x7d",
    "      ? JsonContent<S>",
    "      : R extends \x7b 201: infer S \x7d",
    "        ? JsonContent<S>",
    "        : unknown",
    "    : unknown;",
    "",
    "export type QueryParams<P extends keyof paths, M extends Method> =",
    "  Op<P, M> extends \x7b parameters: \x7b query?: infer Q \x7d \x7d ? NonNullable<Q> : never;",
    "",
    "export type RequestConfig<Q = never> = Omit<TransportConfig, \"query\"> & \x7b query?: Q " ++
      "\x7d;",
    ""]

/-- The lines of the module of operations. -/
def operations (ops : List Operation) (stamp typesImport : String) : List String :=
  let accessors := accessors ops
  operationsHead stamp typesImport ++
  accessors.flatMap Accessor.aliasLines ++
  [ "/** Where each operationId lives, for the `*ById` helpers. */",
    "export type OperationIndex = \x7b"] ++
  accessors.map Accessor.indexLine ++
  [ "\x7d;",
    "",
    "/** Multipart endpoints and their file fields, keyed by `\"<method> <path>\"`. */",
    "export const multipartEndpoints: Record<string, Record<string, \"file\" | " ++
      "\"files\">> = \x7b"] ++
  (forms ops).map Form.line ++
  [ "\x7d;",
    "",
    "export function createOperations(client: Transport) \x7b",
    "  return \x7b"] ++
  accessors.flatMap Accessor.functionLines ++
  [ "  \x7d;",
    "\x7d",
    "",
    "export type Operations = ReturnType<typeof createOperations>;"]

end Module

end TypedClient.TypeScript
