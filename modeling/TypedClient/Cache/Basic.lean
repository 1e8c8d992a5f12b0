import TypedClient.Cache.Record
import TypedClient.Files.Store
import TypedClient.Spec.Reader
import TypedClient.Log

/-!
# The cache

The cache is a directory with two files: the document that was generated last, and the record of it.
A run compares a document with them. A file that cannot be read is reported and counts as missing, so
a damaged cache costs no more than an empty one.
-/

namespace TypedClient.Cache

open Files (Path Store)

/-- What is wrong with a cache. -/
inductive Fault
  | io (path : Path) (fault : Files.Fault)
  | record (path : Path) (fault : Json.Fault)
  | spec (fault : ParseFault)

/-- What is wrong, in words. -/
def Fault.message : Fault → String
  | io path fault => "cache I/O error at " ++ path.text ++ ": " ++ fault.message
  | record path fault => "corrupt cache metadata at " ++ path.text ++ ": " ++ fault.message
  | spec fault => "corrupt cached spec: " ++ fault.message

/-- The file of the document. -/
def specPath (dir : Path) : Path := dir.child "spec.json"

/-- The file of the record. -/
def recordPath (dir : Path) : Path := dir.child "cache.json"

/-- What the cache knows of a document. -/
structure Hit where
  /-- The document that was generated last. -/
  previous : Option Document
  /-- Whether it has the same digest. -/
  unchanged : Bool

section

variable {m : Type → Type} [Monad m] [Store m]

/-! ## Reading -/

/-- The text in a file, if the file exists. -/
def readOptional (path : Path) : m (Except Fault (Option String)) := do
  match ← Store.readText path with
  | .ok text => return .ok (some text)
  | .error .notFound => return .ok none
  | .error fault => return .error (.io path fault)

/-- The record, if there is one. -/
def load (dir : Path) : m (Except Fault (Option Record)) := do
  match ← readOptional (recordPath dir) with
  | .error fault => return .error fault
  | .ok none => return .ok none
  | .ok (some text) =>
    match Record.parse text with
    | .ok record => return .ok (some record)
    | .error fault => return .error (.record (recordPath dir) fault)

/-- The document that was generated last, if there is one. -/
def previous (dir : Path) : m (Except Fault (Option Document)) := do
  match ← readOptional (specPath dir) with
  | .error fault => return .error fault
  | .ok none => return .ok none
  | .ok (some text) =>
    match Document.ofJsonText text with
    | .ok doc => return .ok (some doc)
    | .error fault => return .error (.spec fault)

/-- Whether the record has the given digest. -/
def isUnchanged (dir : Path) (hash : String) : m (Except Fault Bool) := do
  match ← load dir with
  | .error fault => return .error fault
  | .ok record => return .ok (record.any fun record => record.hash = hash)

/-- What the cache knows of a document with the given digest, and warnings about what could not be
read. The record is read only if there is a document. -/
def lookup (dir : Path) (hash : String) : m (Hit × List Log.Message) := do
  match ← previous dir with
  | .error fault =>
    return (⟨none, false⟩, [⟨.warn, "ignoring cached spec: " ++ fault.message⟩])
  | .ok none => return (⟨none, false⟩, [])
  | .ok (some doc) =>
    match ← isUnchanged dir hash with
    | .ok unchanged => return (⟨some doc, unchanged⟩, [])
    | .error fault =>
      return (⟨some doc, false⟩, [⟨.warn, "ignoring cache metadata: " ++ fault.message⟩])

/-! ## Writing -/

/-- The files that keep a document and its record, in the order in which they are written. -/
def contents (dir : Path) (doc : Document) (record : Record) : List (Path × String) :=
  [(specPath dir, doc.canonical), (recordPath dir, record.render)]

/-- Writes files up to the first that cannot be written. -/
def writeAll : List (Path × String) → m (Except Fault Unit)
  | [] => return .ok ()
  | (path, content) :: rest => do
    match ← Store.writeText path content with
    | .ok () => writeAll rest
    | .error fault => return .error (.io path fault)

/-- Keeps a document and its record. -/
def store (dir : Path) (doc : Document) (record : Record) : m (Except Fault Unit) := do
  match ← Store.createDirectories dir with
  | .ok () => writeAll (contents dir doc record)
  | .error fault => return .error (.io dir fault)

end

end TypedClient.Cache
