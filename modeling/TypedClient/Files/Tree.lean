import TypedClient.Files.Node
import TypedClient.Files.Path

/-!
# File operations

What the operations of a file system do to a tree. A path is followed step by step, so every
directory on the way has to exist, also one that two dots leave again. Two dots at the root stay there.
-/

namespace TypedClient.Files

/-- Why a file operation failed. -/
inductive Fault
  | notFound
  | notDirectory
  | isDirectory
  | occupied
  | notEmpty
  /-- A directory cannot move into itself. -/
  | intoItself
  /-- The content is no text. -/
  | notText
  /-- A fault that only its text tells. -/
  | other (text : String)
deriving DecidableEq, Repr

/-- What is wrong, in words. -/
def Fault.message : Fault → String
  | notFound => "No such file or directory (os error 2)"
  | notDirectory => "Not a directory (os error 20)"
  | isDirectory => "Is a directory (os error 21)"
  | occupied => "File exists (os error 17)"
  | notEmpty => "Directory not empty (os error 39)"
  | intoItself => "Invalid argument (os error 22)"
  | notText => "stream did not contain valid UTF-8"
  | other text => text

namespace Node

/-! ## Following paths -/

/-- The address that steps lead to from an address, which has to be a directory if any step is left
to take. -/
def follow (root : Node) (here : Address) : List String → Except Fault Address
  | [] => .ok here
  | step :: rest =>
    match root.get? here with
    | none => .error .notFound
    | some (.file _) => .error .notDirectory
    | some (.directory _) =>
      root.follow (if step = ".." then here.dropLast else here ++ [step]) rest

/-- The address that a path names. What is there need not exist. -/
def locate (root : Node) (path : Path) : Except Fault Address :=
  if path.isEmpty then .error .notFound else root.follow [] path.steps

/-- The node that a path names. -/
def find (root : Node) (path : Path) : Except Fault (Address × Node) := do
  let address ← root.locate path
  match root.get? address with
  | none => throw .notFound
  | some (.file content) =>
    if path.demandsDirectory then throw .notDirectory else return (address, .file content)
  | some (.directory entries) => return (address, .directory entries)

/-! ## Reading -/

/-- Whether a path names anything. -/
def hasPath (root : Node) (path : Path) : Bool :=
  match root.find path with
  | .ok _ => true
  | .error _ => false

/-- The text in a file. -/
def readText (root : Node) (path : Path) : Except Fault String := do
  match ← root.find path with
  | (_, .directory _) => throw .isDirectory
  | (_, .file content) =>
    match String.fromUTF8? content with
    | some text => return text
    | none => throw .notText

/-! ## Writing -/

/-- Writes a file in a directory that exists. -/
def writeFile (root : Node) (path : Path) (content : ByteArray) : Except Fault Node := do
  let address ← root.locate path
  match root.get? address with
  | some (.directory _) => throw .isDirectory
  | some (.file _) =>
    if path.demandsDirectory then throw .notDirectory else return root.put address (.file content)
  | none =>
    if path.demandsDirectory then throw .isDirectory else return root.put address (.file content)

/-- Makes sure that the directories on the way exist; those made before a fault stay. The last one is
not made if it is to be there already. -/
def ensure (root : Node) (there : Bool) (here : Address) : List String → Except Fault Unit × Node
  | [] => (.ok (), root)
  | step :: rest =>
    if step = ".." then root.ensure there here.dropLast rest
    else
      match root.get? (here ++ [step]) with
      | some (.directory _) => root.ensure there (here ++ [step]) rest
      | some (.file _) =>
        (.error (if rest.isEmpty && !there then .occupied else .notDirectory), root)
      | none =>
        if rest.isEmpty && there then (.error .notFound, root)
        else (root.put (here ++ [step]) .empty).ensure there (here ++ [step]) rest

/-- Makes a directory and those on the way to it, as far as they are missing. Behind a dot nothing is
made, but the directories over it are. -/
def createDirectories (root : Node) (path : Path) : Except Fault Unit × Node :=
  root.ensure path.endsInDot [] path.steps

/-! ## Moving and removing -/

/-- Whether a directory may take the place of what is at the target. -/
def checkDirectoryMove (source target : Address) : Option Node → Except Fault Unit
  | some (.file _) => .error .notDirectory
  | some (.directory (_ :: _)) => .error .notEmpty
  | _ => if source.isPrefixOf target then .error .intoItself else .ok ()

/-- Moves what is at the first path to the second one. A file takes the place of a file, and a directory
that of an empty directory. -/
def rename (root : Node) (source target : Path) : Except Fault Node := do
  let (origin, node) ← root.find source
  let address ← root.locate target
  if origin = address then return root
  match node with
  | .file _ =>
    if let some (.directory _) := root.get? address then throw .isDirectory
    if target.demandsDirectory then throw .notDirectory
  | .directory _ => checkDirectoryMove origin address (root.get? address)
  return (root.erase origin).put address node

/-- Removes a file. -/
def removeFile (root : Node) (path : Path) : Except Fault Node := do
  match ← root.find path with
  | (_, .directory _) => throw .isDirectory
  | (address, .file _) => return root.erase address

/-- Removes what a path names with all that is in it; if it names nothing, nothing happens. -/
def removeTree (root : Node) (path : Path) : Node :=
  match root.locate path with
  | .ok address => root.erase address
  | .error _ => root

end Node

end TypedClient.Files
