import TypedClient.Json.Basic

/-!
# Looking things up in an untyped tree

A lookup has one of three outcomes: the value is there with the expected shape, it is not there at
all, or something of another shape is in its place. A `null` counts as not there.
-/

namespace TypedClient

/-- The outcome of a lookup. -/
inductive Lookup (α : Type)
  /-- There, with the expected shape. -/
  | found (value : α)
  /-- Not there, or `null`. -/
  | missing
  /-- There, but of another shape; carries what is there instead. -/
  | misshapen (value : Json)

namespace Lookup

variable {α β : Type}

/-- What was found, if anything was. -/
def found? : Lookup α → Option α
  | found value => some value
  | _ => none

/-- Whether the lookup found something of the expected shape. -/
def isFound : Lookup α → Bool
  | found _ => true
  | _ => false

/-- Whether there was nothing. -/
def isMissing : Lookup α → Bool
  | missing => true
  | _ => false

/-- Whether there was something of another shape. -/
def isMisshapen : Lookup α → Bool
  | misshapen _ => true
  | _ => false

/-- Looks a key up among the entries of an object. -/
def entry (entries : Json.Entries) (key : String) : Lookup Json :=
  match entries.get? key with
  | none => missing
  | some .null => missing
  | some value => found value

/-- Looks a key up on a value; a value that is no object is misshapen. -/
def field (parent : Json) (key : String) : Lookup Json :=
  match parent with
  | .object entries => entry entries key
  | other => misshapen other

/-- Goes on with the lookup one level deeper. -/
def get (lookup : Lookup Json) (key : String) : Lookup Json :=
  match lookup with
  | found value => field value key
  | other => other

/-- Asks for a shape. -/
def narrow (lookup : Lookup Json) (shape : Json → Option β) : Lookup β :=
  match lookup with
  | found value =>
    match shape value with
    | some shaped => found shaped
    | none => misshapen value
  | missing => missing
  | misshapen value => misshapen value

/-- Asks for an object. -/
def object (lookup : Lookup Json) : Lookup Json.Entries :=
  lookup.narrow Json.entries?

/-- Asks for a string. -/
def string (lookup : Lookup Json) : Lookup String :=
  lookup.narrow Json.text?

/-- Asks for an array. -/
def array (lookup : Lookup Json) : Lookup (List Json) :=
  lookup.narrow Json.items?

end Lookup

end TypedClient
