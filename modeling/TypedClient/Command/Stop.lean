import TypedClient.Failure

/-!
# Why a command stops

A command stops at a failure, or because the configuration it would make cannot be made. The reason is
told as a chain: what was tried, what failed, and what lies behind that.
-/

namespace TypedClient

/-- Why a command stops. -/
inductive Stop
  | failed (failure : Failure)
  /-- The document at a source could not be loaded. -/
  | unloaded (source : String) (failure : Failure)
  /-- There is a configuration already. -/
  | configured (path : Files.Path)
  /-- The configuration could not be written. -/
  | unwritten (path : Files.Path) (fault : Files.Fault)

namespace Stop

/-- The failure at which the command stopped, if there is one. -/
def failure? : Stop → Option Failure
  | failed failure | unloaded _ failure => some failure
  | configured _ | unwritten _ _ => none

/-- The reason as a chain of texts. -/
def chain : Stop → List String
  | failed failure => failure.message :: failure.causes
  | unloaded source failure =>
    ("failed to load spec from " ++ source) :: failure.message :: failure.causes
  | configured path => [path.text ++ " already exists. Use --force to overwrite."]
  | unwritten path fault => ["failed to write " ++ path.text, fault.message]

/-- What is shown when a command stops. -/
def text (stop : Stop) : String :=
  "error: " ++ ": ".intercalate stop.chain ++ "\n" ++
    match stop.failure? with
    | some failure => "hint: " ++ failure.hint ++ "\n"
    | none => ""

end Stop

end TypedClient
