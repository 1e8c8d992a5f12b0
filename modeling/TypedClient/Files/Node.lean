/-!
# Trees of files

A directory has named entries, each a file or a directory again. An address is the list of names that
leads from the root to a node. There are no links: no name stands for another address, and no two addresses
share a file. Names of any length and with any characters will do.
-/

namespace TypedClient.Files

/-- A file or a directory. -/
inductive Node
  | file (content : ByteArray)
  | directory (entries : List (String × Node))

/-- The names that lead to a node. -/
abbrev Address := List String

/-- Sets the node under a name: a new name goes to the end, a known one keeps its place. -/
def setEntry (name : String) (node : Node) : List (String × Node) → List (String × Node)
  | [] => [(name, node)]
  | (n, known) :: rest =>
    if n = name then (name, node) :: rest else (n, known) :: setEntry name node rest

/-- Takes a name away. -/
def dropEntry (name : String) (entries : List (String × Node)) : List (String × Node) :=
  entries.filter fun entry => entry.1 ≠ name

namespace Node

/-- The empty directory. -/
def empty : Node := .directory []

/-- The node at an address. -/
def get? : Node → Address → Option Node
  | node, [] => some node
  | .file _, _ :: _ => none
  | .directory entries, name :: rest =>
    match entries.lookup name with
    | some node => node.get? rest
    | none => none

/-- Puts a node at an address whose directory exists. -/
def put : Node → Address → Node → Node
  | _, [], new => new
  | .file content, _ :: _, _ => .file content
  | .directory entries, name :: rest, new =>
    match entries.lookup name with
    | some node => .directory (setEntry name (node.put rest new) entries)
    | none =>
      if rest.isEmpty then .directory (setEntry name new entries) else .directory entries

/-- Takes away what is at an address below the root. -/
def erase : Node → Address → Node
  | node, [] => node
  | .file content, _ :: _ => .file content
  | .directory entries, [name] => .directory (dropEntry name entries)
  | .directory entries, name :: rest =>
    match entries.lookup name with
    | some node => .directory (setEntry name (node.erase rest) entries)
    | none => .directory entries

/-- The names in a directory. -/
def names : Node → List String
  | .file _ => []
  | .directory entries => entries.map Prod.fst

end Node

end TypedClient.Files
