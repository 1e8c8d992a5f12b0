import TypedClient.Yaml.Scalar
import TypedClient.Yaml.Node

/-!
# YAML values

The value of a node has its aliases replaced by what they stand for, its plain scalars given their
meaning, and its tags either applied or kept: a tag of the core schema forces the type of a scalar,
a local tag wraps the value, and any other tag makes a scalar a string. Mappings refuse equal keys.
-/

namespace TypedClient.Yaml

/-- A value: what a node means. -/
inductive Value
  | null
  | bool (value : Bool)
  | number (value : Yaml.Number)
  | string (value : String)
  | sequence (items : List Value)
  | mapping (entries : List (Value × Value))
  | tagged (tag : String) (value : Value)

namespace Value

mutual

/-- Equality of values as keys; the order of a mapping's entries does not matter. -/
def same : Value → Value → Bool
  | .null, .null => true
  | .bool a, .bool b => a == b
  | .number m, .number n => m.same n
  | .string s, .string t => s == t
  | .sequence xs, .sequence ys => sameItems xs ys
  | .mapping xs, .mapping ys => xs.length == ys.length && sameEntries xs ys
  | .tagged s x, .tagged t y => s == t && same x y
  | _, _ => false

/-- Equality item by item. -/
def sameItems : List Value → List Value → Bool
  | [], [] => true
  | x :: xs, y :: ys => same x y && sameItems xs ys
  | _, _ => false

/-- Whether every entry of the first mapping has its equal in the second one. -/
def sameEntries : List (Value × Value) → List (Value × Value) → Bool
  | [], _ => true
  | (key, value) :: rest, ys =>
    ys.any (fun y => same key y.1 && same value y.2) && sameEntries rest ys

end

/-- Whether two of the keys are equal. -/
def hasRepeatedKey : List Value → Bool
  | [] => false
  | key :: rest => rest.any (same key) || hasRepeatedKey rest

end Value

/-! ## Tags -/

/-- The tag of a core type. -/
def coreTag (name : String) : String := "tag:yaml.org,2002:" ++ name

/-- A text without its leading exclamation mark, unless nothing else is there. -/
def dropBang (s : String) : String :=
  match s.toList with
  | ['!'] => s
  | '!' :: cs => String.ofList cs
  | _ => s

/-- The name of a local tag. -/
def localTag? (tag : Option String) : Option String :=
  match tag with
  | some tag => if tag.toList.head? = some '!' then some (dropBang (dropBang tag)) else none
  | none => none

/-! ## Scalars -/

/-- The value of a plain scalar without a tag. -/
def Value.ofPlain (text : String) : Except Fault Value := do
  match ← Meaning.ofPlain text with
  | .null => return .null
  | .truth b => return .bool b
  | .number n => return .number n
  | .text => return .string text

/-- The value that a core tag makes of a text. -/
def Value.ofCore (tag text : String) : Except Fault Value :=
  if tag = coreTag "bool" then
    match truth? text with
    | some b => .ok (.bool b)
    | none => .error .wrongType
  else if tag = coreTag "int" then
    match integerMeaning text with
    | .ok (some n) => .ok (.number (.int n))
    | .ok none => .error .wrongType
    | .error fault => .error fault
  else if tag = coreTag "float" then
    match real? text with
    | some x => .ok (.number x)
    | none => .error .wrongType
  else if tag = coreTag "null" then
    if isNull text then .ok .null else .error .wrongType
  else .ok (.string text)

/-- The value of a scalar; a local tag leaves its meaning alone. -/
def Value.ofScalar (tag : Option String) (style : Style) (text : String) : Except Fault Value :=
  match tag, localTag? tag with
  | some tag, none => Value.ofCore tag text
  | _, _ => if style = .plain then Value.ofPlain text else .ok (.string text)

/-! ## Nodes -/

/-- The state of a traversal: the number of aliases followed so far. -/
abbrev Traversal := StateT Nat (Except Fault)

/-- Follows an alias; `limit` bounds how many may be followed in all. -/
def followAlias (anchors : Anchors) (limit : Nat) : Node → Traversal Node
  | .alias number => do
    let count := (← get) + 1
    set count
    if count > limit then throw .tooManyAliases
    return anchors.target number
  | node => return node

/-- Wraps a value in a local tag. -/
def wrapTag (properties : Properties) (value : Value) : Value :=
  match localTag? properties.tag with
  | some tag => .tagged tag value
  | none => value

/-- The value of a node; `room` is the number of collections that may still be opened. -/
def nodeValue (anchors : Anchors) (limit : Nat) : (room : Nat) → Node → Traversal Value
  | 0, node => do
    match ← followAlias anchors limit node with
    | .scalar properties style text =>
      return wrapTag properties (← Value.ofScalar properties.tag style text)
    | _ => throw .tooDeep
  | room + 1, node => do
    match ← followAlias anchors limit node with
    | .scalar properties style text =>
      return wrapTag properties (← Value.ofScalar properties.tag style text)
    | .sequence properties items =>
      return wrapTag properties (.sequence (← items.mapM (nodeValue anchors limit room)))
    | .mapping properties entries =>
      let entries ← entries.mapM fun entry => do
        return (← nodeValue anchors limit room entry.1, ← nodeValue anchors limit room entry.2)
      if Value.hasRepeatedKey (entries.map Prod.fst) then throw .repeatedKey
      return wrapTag properties (.mapping entries)
    | .alias _ => throw .unknownAnchor

/-- How many collections may lie within one another. -/
def maxDepth : Nat := 128

/-- The value of a document's root; aliases may be followed a hundred times for every scalar, alias
and end of a collection. -/
def Value.ofNode (root : Node) : Except Fault Value := do
  let (value, _) ← (nodeValue (.ofNode root) (100 * root.size) maxDepth root).run 0
  return value

end TypedClient.Yaml
