import TypedClient.Number.Binary64

/-!
# JSON values

A JSON value is a tree whose objects keep their entries in the order of the text they came from. The
type admits a key twice; objects built with `Entries.insert` never hold one twice, which
`Json.DistinctKeys` states for a whole value.
-/

namespace TypedClient

open Number (Binary64)

/-- A number of a document: an integer kept exactly, or a finite floating-point number. -/
inductive Json.Number
  | int (value : Int)
  | real (value : Binary64)
deriving DecidableEq

/-- A JSON value; the entries of an object are in source order. -/
inductive Json
  | null
  | bool (value : Bool)
  | number (value : Json.Number)
  | string (value : String)
  | array (items : List Json)
  | object (entries : List (String × Json))

namespace Json

/-- The entries of an object in source order. -/
abbrev Entries := List (String × Json)

/-! ## Entries by key -/

/-- The value at a key, if the object has it. -/
def Entries.get? (entries : Entries) (key : String) : Option Json :=
  entries.lookup key

/-- Whether the object has the key. -/
def Entries.contains (entries : Entries) (key : String) : Bool :=
  (entries.get? key).isSome

/-- The keys in source order. -/
def Entries.keys (entries : Entries) : List String :=
  entries.map Prod.fst

/-- Sets the value at a key: a new key goes to the end, a known one keeps its place. -/
def Entries.insert : Entries → String → Json → Entries
  | [], key, value => [(key, value)]
  | (k, v) :: rest, key, value =>
    if k = key then (key, value) :: rest else (k, v) :: Entries.insert rest key value

/-- The entries with every key once: at its first place and with its last value. -/
def Entries.ofList (entries : Entries) : Entries :=
  entries.foldl (fun known entry => known.insert entry.1 entry.2) []

/-! ## Kinds -/

/-- The name of a value's kind, as messages spell it. -/
def kind : Json → String
  | .null => "null"
  | .bool _ => "boolean"
  | .number _ => "number"
  | .string _ => "string"
  | .array _ => "array"
  | .object _ => "object"

/-- Whether a number is zero. -/
def Number.isZero : Json.Number → Bool
  | .int n => n == 0
  | .real x => x.isZero

/-- A value counts as true unless it is `null`, `false`, zero or the empty string. -/
def truthy : Json → Bool
  | .null => false
  | .bool b => b
  | .number n => !n.isZero
  | .string s => s != ""
  | .array _ => true
  | .object _ => true

/-- The entries of an object, if the value is one. -/
def entries? : Json → Option Entries
  | .object entries => some entries
  | _ => none

/-- The text of a string, if the value is one. -/
def text? : Json → Option String
  | .string s => some s
  | _ => none

/-- The items of an array, if the value is one. -/
def items? : Json → Option (List Json)
  | .array items => some items
  | _ => none

/-! ## Distinct keys and depth -/

mutual

/-- Every object inside the value holds each of its keys once. -/
def DistinctKeys : Json → Prop
  | .array items => DistinctKeysItems items
  | .object entries => (entries.map Prod.fst).Nodup ∧ DistinctKeysEntries entries
  | _ => True

/-- `DistinctKeys` of each item. -/
def DistinctKeysItems : List Json → Prop
  | [] => True
  | item :: rest => DistinctKeys item ∧ DistinctKeysItems rest

/-- `DistinctKeys` of each entry's value. -/
def DistinctKeysEntries : List (String × Json) → Prop
  | [] => True
  | (_, value) :: rest => DistinctKeys value ∧ DistinctKeysEntries rest

end

mutual

/-- How many containers lie within one another, counted along the deepest path. -/
def depth : Json → Nat
  | .array items => depthItems items + 1
  | .object entries => depthEntries entries + 1
  | _ => 0

/-- The depth of the deepest item. -/
def depthItems : List Json → Nat
  | [] => 0
  | item :: rest => max (depth item) (depthItems rest)

/-- The depth of the deepest entry. -/
def depthEntries : List (String × Json) → Nat
  | [] => 0
  | (_, value) :: rest => max (depth value) (depthEntries rest)

end

end Json

end TypedClient
