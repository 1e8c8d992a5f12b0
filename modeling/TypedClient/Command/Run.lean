import TypedClient.Command.Basic
import TypedClient.Command.Stop
import TypedClient.Config.Load
import TypedClient.Source.Load
import TypedClient.Operation.Change
import TypedClient.TypeScript.Client
import TypedClient.Yaml.Json

/-!
# Running commands

What each command does in its surroundings. Results go to the standard output, all else to the standard
error, and the exit code tells whether the command ran to its end.
-/

namespace TypedClient.Command

open Files (Path Store)

/-- The version of the program. -/
def versionText : String := "acg 0.3.0"

section

variable {m : Type → Type} [Monad m] [Host m]

/-- A step of a command. -/
abbrev Run (m : Type → Type) := ExceptT Stop m

/-- Stops the command if a step failed. -/
def orStop {α : Type} (step : m (Except Failure α)) : Run m α := do
  match ← (step : m (Except Failure α)) with
  | .ok result => return result
  | .error failure => throw (.failed failure)

/-- Writes a line to the standard output. -/
def outLine (line : String) : m Unit := Host.out (line ++ "\n")

/-- Writes a line to the standard error. -/
def errLine (line : String) : m Unit := Host.err (line ++ "\n")

/-- Does something for each item in turn. -/
def each {α : Type} (action : α → m Unit) : List α → m Unit
  | [] => return ()
  | item :: rest => do
    action item
    each action rest

/-! ## Documents -/

/-- Loads the document that a text names. -/
def loadDocument (input : String) (config : Config) : Run m Document := do
  let source := Source.ofString input
  match ← (source.load config.fetch : m _) with
  | .ok doc => return doc
  | .error failure => throw (.unloaded source.text failure)

/-- Shows the issues of a document and stops if they are reason enough. -/
def check (doc : Document) (strict : Bool) : Run m (List Issue) := do
  let issues := doc.issues
  each (m := m) (fun issue => errLine ("  " ++ issue.text)) issues
  match Issue.verdict issues strict with
  | .ok issues => return issues
  | .error failure => throw (.failed failure)

/-- The operations of a document; what extracting them has to say is reported. -/
def extract (doc : Document) : m (List Operation) := do
  each Host.log doc.extractionLog
  return doc.operations

/-! ## Differences -/

/-- What changed from one list of operations to another. -/
def difference (old new : List Operation) : Operation.Difference :=
  (Operation.Index.ofList old).difference (Operation.Index.ofList new)

/-- The lines that show a difference. -/
def differenceLines (difference : Operation.Difference) : List String :=
  difference.added.map ("+ " ++ ·) ++ difference.removed.map ("- " ++ ·) ++
    (difference.modified.map fun modification =>
      "~ " ++ modification.id ++ " (" ++
        ", ".intercalate (modification.fields.map Operation.Field.word) ++ ")") ++
    [difference.summary]

/-- Shows a difference. -/
def showDifference (difference : Operation.Difference) : m Unit :=
  each outLine (differenceLines difference)

/-! ## Generating -/

/-- What generating a client depends on. -/
structure Job where
  config : Config
  input : String
  output : Path
  force : Bool
  doc : Document
  operations : List Operation

/-- The files of a job. -/
def Job.files (job : Job) (stamp : String) : List Files.Generated :=
  TypeScript.clientFiles job.operations
    { stamp
      typesImport := job.config.typesImport
      transport := job.config.transport
      force := job.force }

/-- Writes files to a directory, all or none. -/
def writeFiles (output : Path) (files : List Files.Generated) :
    m (Except Files.BatchFault Files.Summary) := do
  match ← Files.Batch.start output with
  | .error fault => return .error fault
  | .ok batch =>
    match ← batch.stageAll files with
    | (batch, .error fault) => do
      batch.discard
      return .error fault
    | (batch, .ok ()) => batch.commit

/-- Shows which files were written and which were left as they were. -/
def showSummary (output : Path) (summary : Files.Summary) : m Unit := do
  each (fun path => errLine ("  wrote " ++ (output.join path).text)) summary.written
  each (fun path =>
    errLine ("  kept " ++ (output.join path).text ++
      " (hand-editable; pass --force to overwrite)")) summary.preserved

/-- Writes the files of a job and keeps its document in the cache. -/
def Job.write (job : Job) : m (Except Failure Files.Summary) := do
  let stamp ← Host.now
  match ← writeFiles job.output (job.files stamp) with
  | .error fault => return .error (.output fault)
  | .ok summary =>
    showSummary job.output summary
    match ← Cache.store (Path.ofString job.config.cacheDir) job.doc
        ⟨job.doc.fingerprint, stamp, job.input⟩ with
    | .error fault => return .error (.cache fault)
    | .ok () => return .ok summary

/-- Writes the files of a job and tells of its progress. -/
def Job.run (job : Job) : Run m Unit := do
  Host.log (m := m) (Log.started "generate")
  match ← (job.write : m _) with
  | .error failure =>
    Host.log (m := m) (Log.abandoned "generate")
    throw (.failed failure)
  | .ok summary =>
    Host.log (m := m) (Log.finished "generate"
      (toString job.operations.length ++ " operations, " ++ toString summary.written.length ++
        " files written to " ++ job.output.text))

/-- Shows what would change against the last run. -/
def showPlan (previous : Option (List Operation)) (operations : List Operation) : m Unit :=
  match previous with
  | some previous => showDifference (difference previous operations)
  | none =>
    outLine ("no previous run cached; " ++ toString operations.length ++
      " operations would be generated")

/-- Generates a client. Nothing is done for a document that is unchanged since the last run, as long as
the output is there. -/
def generateClient (options : Generation) : Run m Unit := do
  let config ← orStop Config.ofProject
  let input := options.input.getD config.input
  let output := options.output.getD (.ofString config.output)
  let doc ← loadDocument input config
  let _ ← check doc (options.strict || config.strict)
  let operations ← (extract doc : m _)
  let (hit, warnings) ← (Cache.lookup (Path.ofString config.cacheDir) doc.fingerprint : m _)
  each (m := m) Host.log warnings
  let previous := hit.previous.map Document.operations
  if options.dryRun then
    showPlan (m := m) previous operations
  else if hit.unchanged && !options.force && !options.refresh && (← (Store.hasPath output : m _)) then
    Host.log (m := m)
      ⟨.info, "spec unchanged since the last run, nothing to do (use --refresh to regenerate)"⟩
  else
    if let some previous := previous then
      Host.log (m := m)
        ⟨.info, "changes since the last run: " ++ (difference previous operations).summary⟩
    Job.run ⟨config, input, output, options.force, doc, operations⟩

/-! ## Other commands -/

/-- Checks a document. -/
def checkDocument (input : Option String) (strict : Bool) : Run m Unit := do
  let config ← orStop Config.ofProject
  let doc ← loadDocument (input.getD config.input) config
  let issues ← check doc (strict || config.strict)
  errLine (m := m) ("Valid " ++ doc.version.getD "OpenAPI" ++ " spec: " ++
    doc.title.getD "(untitled)")
  let operations ← (extract doc : m _)
  errLine (m := m) ("  Operations: " ++ toString operations.length)
  errLine (m := m) ("  Warnings: " ++ toString (Issue.warnings issues).length)

/-- Shows what changed from one document to another. -/
def compareDocuments (old new : String) : Run m Unit := do
  let config ← orStop Config.ofProject
  let before ← (extract (← loadDocument old config) : m _)
  let after ← (extract (← loadDocument new config) : m _)
  showDifference (m := m) (difference before after)

/-- A text, or null where there is none. -/
def orNull : Option String → Json
  | some text => .string text
  | none => .null

/-- A document and its operations as JSON. -/
def overview (doc : Document) (operations : List Operation) : Json :=
  .object [
    ("info", .object [("title", orNull doc.title), ("version", orNull doc.version),
      ("fingerprint", .string doc.fingerprint)]),
    ("operations", .array (operations.map Operation.toJson))]

/-- Shows the operations of a document. -/
def showOverview (input : Option String) (format : Format) : Run m Unit := do
  let config ← orStop Config.ofProject
  let doc ← loadDocument (input.getD config.input) config
  let operations ← (extract doc : m _)
  let summary := overview doc operations
  match format with
  | .yaml => Host.out (m := m) (Yaml.Value.ofJson summary).render
  | .json => outLine (m := m) summary.pretty

/-- Makes a configuration with all defaults. -/
def makeConfig (force : Bool) : Run m Unit := do
  let path := Path.ofString Config.fileName
  if (← (Store.hasPath path : m _)) && !force then throw (.configured path)
  match ← (Store.writeText path Config.template : m _) with
  | .error fault => throw (.unwritten path fault)
  | .ok () => errLine (m := m) ("Created " ++ path.text)

/-! ## Command lines -/

/-- Runs a command. -/
def perform : Command → Run m Unit
  | .generate options => generateClient options
  | .validate input strict => checkDocument input strict
  | .diff old new => compareDocuments old new
  | .inspect input format => showOverview input format
  | .init force => makeConfig force
  | .version => outLine (m := m) versionText

/-- Runs the command that a command line asks for and gives the exit code: zero if the command ran to
its end, one if it stopped, and two if the command line is none. -/
def run (words : List String) : m UInt32 := do
  match ofWords words with
  | none => return 2
  | some command =>
    match ← (perform command : Run m Unit).run with
    | .ok () => return 0
    | .error stop =>
      Host.err stop.text
      return 1

end

end TypedClient.Command
