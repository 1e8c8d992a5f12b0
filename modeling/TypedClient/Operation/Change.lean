import TypedClient.Operation.Index

/-!
# Changes between two indexes

An operation is added, removed or modified. It counts as modified if its method, its path, its
summary or whether it has a body changed; descriptions, query parameters and the names of
placeholders do not count.
-/

namespace TypedClient.Operation

/-- A field whose change counts. -/
inductive Field
  | method
  | path
  | body
  | summary
deriving DecidableEq, Repr

/-- The word for a field. -/
def Field.word : Field → String
  | method => "method"
  | path => "path"
  | body => "hasRequestBody"
  | summary => "summary"

/-- The fields in which two operations differ. -/
def changes (old new : Operation) : List Field :=
  (if old.method = new.method then [] else [.method]) ++
  (if old.path = new.path then [] else [.path]) ++
  (if old.hasBody = new.hasBody then [] else [.body]) ++
  (if old.summary = new.summary then [] else [.summary])

/-- An operation that changed, and where. -/
structure Modification where
  id : String
  fields : List Field
deriving DecidableEq, Repr

/-- The difference between two indexes. -/
structure Difference where
  added : List String
  removed : List String
  modified : List Modification
deriving DecidableEq, Repr

namespace Difference

/-- Whether nothing changed. -/
def isEmpty (difference : Difference) : Bool :=
  difference.added.isEmpty && difference.removed.isEmpty && difference.modified.isEmpty

/-- The difference in one line. -/
def summary (difference : Difference) : String :=
  s!"+{difference.added.length} added, -{difference.removed.length} removed, " ++
    s!"~{difference.modified.length} modified"

end Difference

namespace Index

/-- The ids that only `these` has. -/
def onlyIn (these others : Index) : List String :=
  these.ids.filter fun id => (others.get? id).isNone

/-- What an operation of the new index changed, if the old one has its id. -/
def modification? (old : Index) (op : Operation) : Option Modification :=
  match old.get? op.id with
  | none => none
  | some before =>
    match before.changes op with
    | [] => none
    | fields => some ⟨op.id, fields⟩

/-- What changed from an old index to a new one. -/
def difference (old new : Index) : Difference where
  added := new.onlyIn old
  removed := old.onlyIn new
  modified := new.filterMap (modification? old)

end Index

end TypedClient.Operation
