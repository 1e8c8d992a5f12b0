/-!
# The module of helper types

Types that a program picks by path and method, by operation or by the name of a schema.
-/

namespace TypedClient.TypeScript.Module

/-- The types that the module of helpers exports. -/
def helperExports : List String :=
  ["Paths", "PathsWith", "OperationOf", "RequestBodyOf", "ResponseOf", "SuccessResponseOf",
    "PathParamsOf", "QueryParamsOf", "OperationId", "OperationById", "RequestBodyById",
    "ResponseById", "QueryParamsById", "PathParamsById", "SchemaName", "Schema"]

/-- The lines of the module of helper types. -/
def helpers (stamp typesImport : String) : List String :=
  [ "// Generated by acg at " ++ stamp ++ ".",
    "// This file is yours to edit: acg only rewrites it when run with --force.",
    "import type \x7b components, paths \x7d from \"" ++ typesImport ++ "\";",
    "import type \x7b",
    "  JsonContent,",
    "  Method,",
    "  OperationIndex,",
    "  QueryParams,",
    "  RequestBody,",
    "  ResponseData,",
    "\x7d from \"./operations\";",
    "",
    "export type Paths = keyof paths;",
    "",
    "/** Paths that declare method `M`. */",
    "export type PathsWith<M extends Method> = \x7b",
    "  [P in Paths]: M extends keyof paths[P]",
    "    ? [NonNullable<paths[P][M]>] extends [never]",
    "      ? never",
    "      : P",
    "    : never;",
    "\x7d[Paths];",
    "",
    "export type OperationOf<P extends Paths, M extends Method> = M extends keyof paths[P]",
    "  ? NonNullable<paths[P][M]>",
    "  : never;",
    "",
    "export type RequestBodyOf<P extends Paths, M extends Method> = RequestBody<P, M>;",
    "",
    "/** Payload of the response with status `S` (200 by default). */",
    "export type ResponseOf<P extends Paths, M extends Method, S extends PropertyKey = 200> =",
    "  OperationOf<P, M> extends \x7b responses: infer R \x7d",
    "    ? S extends keyof R",
    "      ? JsonContent<R[S]>",
    "      : never",
    "    : never;",
    "",
    "export type SuccessResponseOf<P extends Paths, M extends Method> = ResponseData<P, M>;",
    "",
    "export type PathParamsOf<P extends Paths, M extends Method> =",
    "  OperationOf<P, M> extends \x7b parameters: \x7b path?: infer X \x7d \x7d ? " ++
      "NonNullable<X> : never;",
    "",
    "export type QueryParamsOf<P extends Paths, M extends Method> = QueryParams<P, M>;",
    "",
    "export type OperationId = keyof OperationIndex;",
    "",
    "export type OperationById<Id extends OperationId> =",
    "  OperationIndex[Id] extends \x7b path: infer P extends Paths; method: infer M extends " ++
      "Method \x7d",
    "    ? OperationOf<P, M>",
    "    : never;",
    "",
    "export type RequestBodyById<Id extends OperationId> =",
    "  OperationIndex[Id] extends \x7b path: infer P extends Paths; method: infer M extends " ++
      "Method \x7d",
    "    ? RequestBodyOf<P, M>",
    "    : never;",
    "",
    "export type ResponseById<Id extends OperationId, S extends PropertyKey = 200> =",
    "  OperationIndex[Id] extends \x7b path: infer P extends Paths; method: infer M extends " ++
      "Method \x7d",
    "    ? ResponseOf<P, M, S>",
    "    : never;",
    "",
    "export type QueryParamsById<Id extends OperationId> =",
    "  OperationIndex[Id] extends \x7b path: infer P extends Paths; method: infer M extends " ++
      "Method \x7d",
    "    ? QueryParamsOf<P, M>",
    "    : never;",
    "",
    "export type PathParamsById<Id extends OperationId> =",
    "  OperationIndex[Id] extends \x7b path: infer P extends Paths; method: infer M extends " ++
      "Method \x7d",
    "    ? PathParamsOf<P, M>",
    "    : never;",
    "",
    "export type SchemaName = keyof components[\"schemas\"];",
    "",
    "/** A named schema from `components.schemas`. */",
    "export type Schema<Name extends SchemaName> = components[\"schemas\"][Name];"]

end TypedClient.TypeScript.Module
