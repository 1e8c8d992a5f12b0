import TypedClient.Naming.TypeName

/-!
# Stems of type names

The types of an operation are named by a stem and one of four suffixes. A stem is taken only if it and
all names made from it are free; if the natural stem is not, the first free one among those with a
number behind it is taken, counted from two.
-/

namespace TypedClient.TypeScript.Stem

/-- The names that a module of operations declares or imports for itself. -/
def reserved : List String :=
  ["paths", "ApiResult", "Transport", "TransportConfig", "Method", "Op", "FileHint", "IsFileKey",
    "RemapFiles", "BodyContent", "PreferredBody", "RequestBody", "JsonContent", "Responses",
    "ResponseData", "QueryParams", "RequestConfig", "OperationIndex", "Operations"]

/-- The suffixes behind a stem. -/
def suffixes : List String :=
  ["Response", "PathParams", "Body", "Query"]

/-- A stem and the names made from it. -/
def names (stem : String) : List String :=
  stem :: suffixes.map (stem ++ ·)

/-- Whether a stem can be taken when the given names are used. -/
def isFree (used : List String) (stem : String) : Bool :=
  (names stem).all fun name => name ∉ used

/-- A stem with a number behind it. -/
def numbered (base : String) (n : Nat) : String :=
  base ++ toString n

/-- The stem for an id when the given names are used. A used name stands in the way of one stem at
most, so one more candidate than there are used names is enough. -/
def allocate (used : List String) (id : String) : String :=
  let base := Naming.typeName id
  if isFree used base then base
  else
    match (List.range used.length).find? fun n => isFree used (numbered base (n + 2)) with
    | some n => numbered base (n + 2)
    | none => base

/-- The stems for ids in their order; each one uses the names made from it. -/
def allocateAll (used : List String) : List String → List String
  | [] => []
  | id :: rest =>
    let stem := allocate used id
    stem :: allocateAll (names stem ++ used) rest

end TypedClient.TypeScript.Stem
