import TypedClient.Json.Printer
import TypedClient.Json.Reader

/-!
# Records of the cache

A record tells what was generated last: the digest of the document, when that was, and where the
document came from. It is kept as an object; a reader takes an array of the three texts as well. An
object may have further entries, which are passed over unread, but each field has to be there once.
-/

namespace TypedClient.Cache

open TypedClient.Json (Fault)

/-- What is known of the document that was generated last. -/
structure Record where
  hash : String
  timestamp : String
  /-- The path or the URL of the document. -/
  endpoint : String
deriving DecidableEq, Repr

namespace Record

/-- A record as JSON. -/
def toJson (record : Record) : Json :=
  .object [("hash", .string record.hash), ("timestamp", .string record.timestamp),
    ("endpoint", .string record.endpoint)]

/-- The text of a record. -/
def render (record : Record) : String :=
  record.toJson.pretty

/-! ## Reading -/

/-- The names of the fields. -/
def fieldNames : List String := ["hash", "timestamp", "endpoint"]

/-- Reads a text. -/
def textValue (cs : List Char) : Except Fault (String × List Char) :=
  match Json.skipSpace cs with
  | '"' :: cs =>
    match Json.stringBody cs with
    | .ok (text, cs) => .ok (String.ofList text, cs)
    | .error fault => .error fault
  | _ => .error .wrongShape

/-- Reads the value at a key and returns the fields with it; the value at any other key is passed
over. -/
def entryValue (fields : List (String × String)) (key : String) (cs : List Char) :
    Except Fault (List (String × String) × List Char) :=
  if key ∈ fieldNames then
    if (fields.lookup key).isSome then .error (.repeatedField key)
    else
      match textValue cs with
      | .ok (text, cs) => .ok ((key, text) :: fields, cs)
      | .error fault => .error fault
  else
    match Json.skipValue (2 * cs.length + 2) cs with
    | .ok cs => .ok (fields, cs)
    | .error fault => .error fault

/-- Reads the entries of an object from the first one to the closing brace. -/
def entries : (fuel : Nat) → List (String × String) → List Char →
    Except Fault (List (String × String) × List Char)
  | 0, _, _ => .error .unexpectedEnd
  | fuel + 1, fields, cs =>
    match Json.entryKey cs with
    | .error fault => .error fault
    | .ok (key, cs) =>
      match entryValue fields key cs with
      | .error fault => .error fault
      | .ok (fields, cs) =>
        match Json.skipSpace cs with
        | '\x7d' :: cs => .ok (fields, cs)
        | ',' :: cs => entries fuel fields cs
        | cs => .error (Json.faultAt cs)

/-- The field with a name. -/
def field (fields : List (String × String)) (name : String) : Except Fault String :=
  match fields.lookup name with
  | some text => .ok text
  | none => .error (.missingField name)

/-- The record with the given fields. -/
def ofFields (fields : List (String × String)) : Except Fault Record := do
  return ⟨← field fields "hash", ← field fields "timestamp", ← field fields "endpoint"⟩

/-- Reads the given character behind blanks. -/
def symbol (expected : Char) (cs : List Char) : Except Fault (List Char) :=
  match Json.skipSpace cs with
  | c :: cs => if c = expected then .ok cs else .error (.unexpected c)
  | [] => .error .unexpectedEnd

/-- Reads three texts up to the closing bracket. -/
def items (cs : List Char) : Except Fault (Record × List Char) := do
  let (hash, cs) ← textValue cs
  let (timestamp, cs) ← textValue (← symbol ',' cs)
  let (endpoint, cs) ← textValue (← symbol ',' cs)
  return (⟨hash, timestamp, endpoint⟩, ← symbol ']' cs)

/-- Reads a record and returns the text after it. -/
def value (cs : List Char) : Except Fault (Record × List Char) :=
  match Json.skipSpace cs with
  | '[' :: cs => items cs
  | '\x7b' :: cs => do
    let (fields, cs) ←
      match Json.skipSpace cs with
      | '\x7d' :: cs => .ok ([], cs)
      | cs => entries cs.length [] cs
    return (← ofFields fields, cs)
  | _ => .error .wrongShape

/-- Reads a record with nothing but blanks around it. -/
def parse (text : String) : Except Fault Record := do
  let (record, rest) ← value text.toList
  if Json.skipSpace rest = [] then return record else throw .trailing

end Record

end TypedClient.Cache
