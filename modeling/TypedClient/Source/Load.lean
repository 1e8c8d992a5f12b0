import TypedClient.Source.Basic
import TypedClient.Source.Retry
import TypedClient.Host

/-!
# Loading a document

The text of a document is read from its file or fetched from its URL and then parsed, whichever format
it is in.
-/

namespace TypedClient.Source

/-- The text in a reply, or why there is none. -/
def textOfReply (url : String) : Reply → Except Failure String
  | .answer 404 _ => .error (.specNotFound url)
  | .answer status body =>
    if 200 ≤ status && status < 300 then
      match body with
      | some text => .ok text
      | none => .error (.network url .connection)
    else .error (.network url (.status status))
  | .timedOut => .error (.network url .timeout)
  | .refused => .error (.network url .connection)

section

variable {m : Type → Type} [Monad m] [Host m]

/-- The text in a file. -/
def readFile (path : Files.Path) : m (Except Failure String) := do
  match ← Files.Store.readText path with
  | .ok text => return .ok text
  | .error .notFound => return .error (.specNotFound path.text)
  | .error fault => return .error (.specUnreadable path fault)

/-- One attempt to fetch a text. -/
def fetchOnce (url : String) (timeoutMs : Nat) : m (Except Failure String) := do
  return textOfReply url (← Host.fetch url timeoutMs)

/-- Reports why a retry follows and waits for it. -/
def pause (message : Log.Message) (delayMs : Nat) : m Unit := do
  Host.log message
  Host.sleep delayMs

/-- Fetches a text, with retries. -/
def fetchText (url : String) (fetch : Config.Fetch) : m (Except Failure String) :=
  Retry.run (fetchOnce url fetch.timeoutMs) pause fetch

/-- The text at a source. -/
def readText (source : Source) (fetch : Config.Fetch) : m (Except Failure String) :=
  match source with
  | .file path => readFile path
  | .url address => fetchText address fetch

/-- The document at a source. -/
def load (source : Source) (fetch : Config.Fetch) : m (Except Failure Document) := do
  match ← source.readText fetch with
  | .error failure => return .error failure
  | .ok text =>
    match Document.ofText text with
    | .error fault => return .error (.specParse fault)
    | .ok doc =>
      Host.log ⟨.debug, "loaded " ++ source.text ++ " (" ++ doc.version.getD "unknown version" ++ ")"⟩
      return .ok doc

end

end TypedClient.Source
