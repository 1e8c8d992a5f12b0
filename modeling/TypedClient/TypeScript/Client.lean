import TypedClient.Files.Generated
import TypedClient.TypeScript.Module.Client
import TypedClient.TypeScript.Module.Errors
import TypedClient.TypeScript.Module.Helpers
import TypedClient.TypeScript.Module.Index
import TypedClient.TypeScript.Module.Operations
import TypedClient.TypeScript.Module.Transport

/-!
# The files of a client

A client is six modules. Two of them are meant to be edited by hand and are written only where they
are missing, unless they are asked for. A time stamp in the first lines is the only part that does not
follow from the operations and the settings.
-/

namespace TypedClient.TypeScript

/-- What the modules of a client depend on besides the operations. -/
structure ClientSettings where
  /-- The time stamp. -/
  stamp : String
  /-- The module with the types of the document. -/
  typesImport : String
  transport : Config.Transport
  /-- Whether the modules meant for editing are written anew. -/
  force : Bool

/-- Lines as a text, with no line feed behind the last one. -/
def unlines (lines : List String) : String :=
  "\n".intercalate lines

/-- The files of a client for operations. -/
def clientFiles (ops : List Operation) (settings : ClientSettings) : List Files.Generated :=
  let editable := if settings.force then Files.Policy.always else .ifMissing
  let stamp := settings.stamp
  [⟨"operations.ts", unlines (Module.operations ops stamp settings.typesImport), .always⟩,
    ⟨"errors.ts", unlines (Module.errors stamp), .always⟩,
    ⟨"instance.ts", unlines (Module.transport settings.transport stamp), .always⟩,
    ⟨"helpers.ts", unlines (Module.helpers stamp settings.typesImport), editable⟩,
    ⟨"client.ts", unlines (Module.client stamp), editable⟩,
    ⟨"index.ts", unlines (Module.index stamp), .always⟩]

end TypedClient.TypeScript
