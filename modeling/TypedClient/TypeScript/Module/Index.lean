import TypedClient.TypeScript.Module.Helpers

/-!
# The module that exports the others

One module passes on what the others export.
-/

namespace TypedClient.TypeScript.Module

/-- The lines of the module that exports the others. -/
def index (stamp : String) : List String :=
  [ "// Generated by acg at " ++ stamp ++ ". Do not edit.",
    "export * from \"./errors\";",
    "export * from \"./instance\";",
    "export * from \"./operations\";",
    "export type \x7b"] ++
  (helperExports.map fun name => "  " ++ name ++ ",") ++
  [ "\x7d from \"./helpers\";",
    "export \x7b api, createClient, type Client \x7d from \"./client\";",
    "export \x7b default \x7d from \"./client\";"]

end TypedClient.TypeScript.Module
