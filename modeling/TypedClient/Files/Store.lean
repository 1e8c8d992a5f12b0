import TypedClient.Files.Tree

/-!
# Stores of files

What the program does with files, whichever way they are kept: on a disk, or in a tree that is passed
along.
-/

namespace TypedClient.Files

/-- The operations on files. -/
class Store (m : Type → Type) where
  /-- Whether a path names anything. -/
  hasPath : Path → m Bool
  readText : Path → m (Except Fault String)
  writeText : Path → String → m (Except Fault Unit)
  /-- Makes a directory and those on the way to it, as far as they are missing. -/
  createDirectories : Path → m (Except Fault Unit)
  /-- Makes a new, empty directory for staged files inside a directory. -/
  createStaging : Path → m (Except Fault Path)
  rename : (source target : Path) → m (Except Fault Unit)
  removeFile : Path → m (Except Fault Unit)
  /-- Removes what a path names with all that is in it, as far as that can be done. -/
  removeTree : Path → m Unit

/-- The names of directories for staged files, by number. -/
def stagingName (n : Nat) : String :=
  ".acg-staging-" ++ toString n

/-- The path of a name in a directory. -/
def Path.child (directory : Path) (name : String) : Path :=
  directory.join ⟨[name]⟩

section

variable {m : Type → Type} [Monad m] [Store m]

/-- Writes a file and makes the directories on the way to it. -/
def writeWithParents (path : Path) (content : String) : m (Except Fault Unit) := do
  match ← Store.createDirectories path.parent with
  | .error fault => return .error fault
  | .ok () => Store.writeText path content

/-- Moves a file and makes the directories on the way to where it goes. -/
def renameWithParents (source target : Path) : m (Except Fault Unit) := do
  match ← Store.createDirectories target.parent with
  | .error fault => return .error fault
  | .ok () => Store.rename source target

end

end TypedClient.Files
