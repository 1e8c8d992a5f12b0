/-!
# Configuration

The settings of a project, each with the default that holds when a configuration does not set it.
-/

namespace TypedClient

/-- Settings of the generated transport. -/
structure Config.Transport where
  baseUrl? : Option String
  timeoutMs : Nat
  /-- Headers by name, in the order of the configuration. -/
  headers : List (String × String)
  withCredentials : Bool
deriving DecidableEq, Repr

/-- How a document is fetched: the number of retries, the delay before the first of them, and how long
an answer may take. -/
structure Config.Fetch where
  retries : Nat
  backoffMs : Nat
  timeoutMs : Nat
deriving DecidableEq, Repr

/-- The settings of a project. -/
structure Config where
  /-- The path or the URL of the document. -/
  input : String
  output : String
  /-- The module with the types of the document. -/
  typesImport : String
  cacheDir : String
  /-- Whether warnings count as errors. -/
  strict : Bool
  transport : Config.Transport
  fetch : Config.Fetch
deriving DecidableEq, Repr

namespace Config

/-- The defaults of the transport. -/
def Transport.default : Transport :=
  ⟨none, 30000, [], false⟩

/-- The defaults of fetching. -/
def Fetch.default : Fetch :=
  ⟨3, 500, 30000⟩

/-- The defaults of a project. -/
def default : Config :=
  ⟨"openapi.json", "src/api", "./schema", ".acg", false, .default, .default⟩

/-- The name of the file that holds the configuration. -/
def fileName : String := ".acg.yaml"

/-- The text of a new configuration. It sets every setting to its default. -/
def template : String :=
  "\n".intercalate [
    "# acg configuration",
    "input: openapi.json     # path or http(s) URL",
    "output: src/api",
    "types_import: ./schema  # module exporting `paths` and `components` types",
    "cache_dir: .acg",
    "strict: false           # fail on validation warnings, not only errors",
    "",
    "instance:",
    "  # base_url: https://api.example.com",
    "  timeout_ms: 30000",
    "  headers: \x7b\x7d",
    "    # X-Client: acg",
    "  with_credentials: false",
    "",
    "fetch:",
    "  retries: 3",
    "  backoff_ms: 500",
    "  timeout_ms: 30000",
    ""]

end Config

end TypedClient
