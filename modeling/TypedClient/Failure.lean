import TypedClient.Cache.Basic
import TypedClient.Files.Batch
import TypedClient.Spec.Issue

/-!
# Failures

What stops the program. Every failure has a text that says what happened and a hint at what to do about
it.
-/

namespace TypedClient

/-- Why a document could not be fetched. -/
inductive NetworkFault
  | timeout
  | connection
  | status (code : Nat)
deriving DecidableEq, Repr

/-- What went wrong, in words. -/
def NetworkFault.message : NetworkFault → String
  | timeout => "timed out"
  | connection => "connection failed"
  | status code => "HTTP " ++ toString code

/-- What stops the program. -/
inductive Failure
  | config (detail : String)
  | network (url : String) (fault : NetworkFault)
  | specNotFound (source : String)
  | specUnreadable (path : Files.Path) (fault : Files.Fault)
  | specParse (fault : ParseFault)
  | generation (detail : String)
  | output (fault : Files.BatchFault)
  | cache (fault : Cache.Fault)
  | validation (errors warnings : Nat)

namespace Failure

/-- What happened, in words. -/
def message : Failure → String
  | config detail => "configuration error: " ++ detail
  | network url fault => "network error fetching " ++ url ++ ": " ++ fault.message
  | specNotFound source => "spec not found: " ++ source
  | specUnreadable path fault => "cannot read spec " ++ path.text ++ ": " ++ fault.message
  | specParse fault => "invalid spec: " ++ fault.message
  | generation detail => "generation failed: " ++ detail
  | output fault => "output error: " ++ fault.message
  | cache fault => "cache error: " ++ fault.message
  | validation errors warnings =>
    "spec validation failed with " ++ toString errors ++ " error(s) and " ++ toString warnings ++
      " warning(s)"

/-- What to do about it. -/
def hint : Failure → String
  | config _ => "check YAML syntax in .acg.yaml, or run `acg init --force`"
  | network _ .timeout => "the server is slow to respond; raise fetch.timeout_ms and re-run"
  | network _ .connection => "check the URL and your network connection, then re-run"
  | network _ (.status _) => "the server rejected the request; check the endpoint and credentials"
  | specNotFound _ => "check the `input` setting or pass --input"
  | specUnreadable _ _ => "make sure the input path is a readable file, not a directory"
  | specParse _ => "make sure the spec is valid JSON or YAML"
  | generation _ => "run `acg validate` to find the offending operation"
  | output _ => "check permissions on the output directory and re-run"
  | cache _ => "delete the cache directory (cache_dir, default .acg) and re-run"
  | validation _ _ => "run `acg validate` for details, or drop --strict to allow warnings"

/-- The texts of what lies behind a failure, the nearest first. -/
def causes : Failure → List String
  | specUnreadable _ fault => [fault.message]
  | specParse fault => fault.message :: parseCauses fault
  | output fault => fault.message :: batchCauses fault
  | cache fault => fault.message :: cacheCauses fault
  | _ => []
where
  /-- What lies behind a fault of a text. -/
  parseCauses : ParseFault → List String
    | .yaml fault => [fault.message]
    | .json fault => [fault.message]
    | .notAnObject _ => []
  /-- What lies behind a fault of a batch. -/
  batchCauses : Files.BatchFault → List String
    | .stage _ fault | .promote _ fault | .rollback _ fault => [fault.message]
  /-- What lies behind a fault of the cache. -/
  cacheCauses : Cache.Fault → List String
    | .io _ fault => [fault.message]
    | .record _ fault => [fault.message]
    | .spec fault => fault.message :: parseCauses fault

end Failure

/-- Issues that do not stop the program, or the failure that they are. -/
def Issue.verdict (issues : List Issue) (strict : Bool) : Except Failure (List Issue) :=
  if blocking issues strict then
    .error (.validation (errors issues).length (warnings issues).length)
  else .ok issues

end TypedClient
