import TypedClient.Config.Reader
import TypedClient.Failure
import TypedClient.Files.Store

/-!
# Loading a configuration

A project keeps its configuration in a file. Without that file all settings have their defaults.
-/

namespace TypedClient.Config

open Files (Path Store)

variable {m : Type → Type} [Monad m] [Store m]

/-- The configuration in a file, if the file is there. -/
def load (path : Path) : m (Except Failure (Option Config)) := do
  if ← Store.hasPath path then
    match ← Store.readText path with
    | .error fault =>
      return .error (.config ("failed to read " ++ path.text ++ ": " ++ fault.message))
    | .ok text =>
      match parse text with
      | .ok config => return .ok (some config)
      | .error fault => return .error (.config (path.text ++ ": " ++ fault.message))
  else return .ok none

/-- The configuration of the project. -/
def ofProject : m (Except Failure Config) := do
  match ← load (Path.ofString fileName) with
  | .ok config => return .ok (config.getD .default)
  | .error failure => return .error failure

end TypedClient.Config
