import TypedClient.Operation.Basic

/-!
# Operations by id

The index holds one operation for each id: the last one with that id, at the place of the first.
-/

namespace TypedClient.Operation

/-- Operations by id, in the order in which the ids first occurred. -/
abbrev Index := List Operation

namespace Index

/-- The operation with an id. -/
def get? (index : Index) (id : String) : Option Operation :=
  index.find? fun op => op.id = id

/-- The ids in order. -/
def ids (index : Index) : List String :=
  index.map Operation.id

/-- Adds an operation: one with a new id goes to the end, another takes the place of the one it
replaces. -/
def insert : Index → Operation → Index
  | [], op => [op]
  | known :: rest, op => if known.id = op.id then op :: rest else known :: Index.insert rest op

/-- The index of a list of operations. -/
def ofList (ops : List Operation) : Index :=
  ops.foldl insert []

end Index

end TypedClient.Operation
