import TypedClient.Config.Basic
import TypedClient.Yaml.Node.Grammar
import TypedClient.Yaml.Scalar
import TypedClient.Yaml.Value
import TypedClient.Text.Blank

/-!
# Reading a configuration

A configuration is a mapping in YAML. Its settings are read from the nodes and not from their values:
a setting that is a text takes any scalar as it is written, so an input named `5` needs no quotes.
Unknown settings are passed over, and one that is given twice is a fault.
-/

namespace TypedClient.Config

open Yaml (Anchors Node Fault)

/-- The node itself, or the one that an alias stands for. -/
def follow (anchors : Anchors) : Node → Node
  | .alias number => anchors.target number
  | node => node

/-! ## Scalars -/

/-- A text: any scalar as it is written. -/
def readText (anchors : Anchors) (node : Node) : Except Fault String :=
  match follow anchors node with
  | .scalar _ _ text => .ok text
  | _ => .error .wrongType

/-- The text of a scalar that may spell something else than a text: one that is plain, or a literal
block with the tag of the type. -/
def bareText? (anchors : Anchors) (type : String) (node : Node) : Option String :=
  match follow anchors node with
  | .scalar _ .plain text => some text
  | .scalar properties .literal text =>
    if properties.tag = some (Yaml.coreTag type) then some text else none
  | _ => none

/-- A truth value. -/
def readTruth (anchors : Anchors) (node : Node) : Except Fault Bool :=
  match (bareText? anchors "bool" node).bind Yaml.truth? with
  | some b => .ok b
  | none => .error .wrongType

/-- The number that a text without a minus sign spells. -/
def unsigned? (cs : List Char) : Option Nat :=
  match Yaml.takeNumberSign cs with
  | (some true, _) => none
  | _ => (Yaml.integer? cs).map Int.toNat

/-- A number of so many bits at most. -/
def readNumber (bits : Nat) (anchors : Anchors) (node : Node) : Except Fault Nat :=
  match (bareText? anchors "int" node).bind fun text => unsigned? text.toList with
  | some n => if n < Number.twoTo bits then .ok n else .error .wrongType
  | none => .error .wrongType

/-- A text that may be missing: an empty or null plain scalar stands for none. -/
def readOptionalText (anchors : Anchors) (node : Node) : Except Fault (Option String) :=
  match follow anchors node with
  | .scalar properties .plain text =>
    match properties.tag with
    | none => .ok (if text = "" || Yaml.isNull text then none else some text)
    | some tag =>
      if tag = Yaml.coreTag "null" then
        if Yaml.isNull text then .ok none else .error .wrongType
      else .ok (some text)
  | .scalar _ _ text => .ok (some text)
  | _ => .error .wrongType

/-! ## Sections -/

/-- The entries of a section; where nothing is written the section is empty. -/
def readEntries (anchors : Anchors) (node : Node) : Except Fault (List (Node × Node)) :=
  match follow anchors node with
  | .mapping _ entries => .ok entries
  | .scalar _ .plain "" => .ok []
  | _ => .error .wrongType

/-- The known settings among entries. -/
def readSettings (anchors : Anchors) (known : List String) :
    List (Node × Node) → Except Fault (List (String × Node))
  | [] => .ok []
  | (key, value) :: rest => do
    let name ← readText anchors key
    let settings ← readSettings anchors known rest
    if name ∉ known then return settings
    if (settings.lookup name).isSome then throw .repeatedKey
    return (name, value) :: settings

/-- Reads a setting, if it is given. -/
def readSetting {α : Type} (settings : List (String × Node)) (name : String) (default : α)
    (read : Node → Except Fault α) : Except Fault α :=
  match settings.lookup name with
  | some node => read node
  | none => .ok default

/-- Sets a header: a new name goes to the end, a known one keeps its place. -/
def setHeader : List (String × String) → String × String → List (String × String)
  | [], header => [header]
  | known :: rest, header =>
    if known.1 = header.1 then header :: rest else known :: setHeader rest header

/-- The headers of a section. -/
def readHeaders (anchors : Anchors) (node : Node) : Except Fault (List (String × String)) := do
  let headers ← (← readEntries anchors node).mapM fun (key, value) => do
    return (← readText anchors key, ← readText anchors value)
  return headers.foldl setHeader []

/-- The settings of the transport. -/
def readTransport (anchors : Anchors) (node : Node) : Except Fault Transport := do
  let settings ← readSettings anchors ["base_url", "timeout_ms", "headers", "with_credentials"]
    (← readEntries anchors node)
  let default := Transport.default
  return {
    baseUrl? := ← readSetting settings "base_url" default.baseUrl? (readOptionalText anchors)
    timeoutMs := ← readSetting settings "timeout_ms" default.timeoutMs (readNumber 64 anchors)
    headers := ← readSetting settings "headers" default.headers (readHeaders anchors)
    withCredentials :=
      ← readSetting settings "with_credentials" default.withCredentials (readTruth anchors) }

/-- The settings of fetching. -/
def readFetch (anchors : Anchors) (node : Node) : Except Fault Fetch := do
  let settings ← readSettings anchors ["retries", "backoff_ms", "timeout_ms"]
    (← readEntries anchors node)
  let default := Fetch.default
  return {
    retries := ← readSetting settings "retries" default.retries (readNumber 32 anchors)
    backoffMs := ← readSetting settings "backoff_ms" default.backoffMs (readNumber 64 anchors)
    timeoutMs :=
      ← readSetting settings "timeout_ms" default.timeoutMs (readNumber 64 anchors) }

/-! ## The whole configuration -/

/-- The configuration at a node. -/
def ofNode (root : Node) : Except Fault Config := do
  let anchors := Anchors.ofNode root
  let settings ← readSettings anchors
    ["input", "output", "types_import", "cache_dir", "strict", "instance", "fetch"]
    (← readEntries anchors root)
  let default := Config.default
  return {
    input := ← readSetting settings "input" default.input (readText anchors)
    output := ← readSetting settings "output" default.output (readText anchors)
    typesImport := ← readSetting settings "types_import" default.typesImport (readText anchors)
    cacheDir := ← readSetting settings "cache_dir" default.cacheDir (readText anchors)
    strict := ← readSetting settings "strict" default.strict (readTruth anchors)
    transport := ← readSetting settings "instance" default.transport (readTransport anchors)
    fetch := ← readSetting settings "fetch" default.fetch (readFetch anchors) }

/-- Reads a configuration; a blank text, like one without content, leaves everything at its
default. -/
def parse (text : String) : Except Fault Config :=
  if (Text.trim text.toList).isEmpty then .ok .default
  else
    match Node.parse text with
    | .error fault => .error fault
    | .ok none => .ok .default
    | .ok (some root) => ofNode root

end TypedClient.Config
