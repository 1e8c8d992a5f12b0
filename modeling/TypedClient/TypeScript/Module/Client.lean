/-!
# The module of the client

The client brings the methods of the transport and the generated operations together.
-/

namespace TypedClient.TypeScript.Module

/-- The lines of the module of the client. -/
def client (stamp : String) : List String :=
  [ "// Generated by acg at " ++ stamp ++ ".",
    "// This file is yours to edit: acg only rewrites it when run with --force.",
    "import \x7b createInstance, type InstanceOptions \x7d from \"./instance\";",
    "import \x7b createOperations \x7d from \"./operations\";",
    "",
    "export function createClient(options: Partial<InstanceOptions> = \x7b\x7d) \x7b",
    "  const transport = createInstance(options);",
    "  return \x7b",
    "    get: transport.get,",
    "    post: transport.post,",
    "    put: transport.put,",
    "    delete: transport.delete,",
    "    patch: transport.patch,",
    "    /** Typed accessors keyed by operationId. */",
    "    op: createOperations(transport),",
    "  \x7d;",
    "\x7d",
    "",
    "export type Client = ReturnType<typeof createClient>;",
    "",
    "export const api: Client = createClient();",
    "",
    "export default api;"]

end TypedClient.TypeScript.Module
