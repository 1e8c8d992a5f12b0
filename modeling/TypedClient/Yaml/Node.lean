import TypedClient.Yaml.Token

/-!
# YAML nodes

A document is a tree of scalars, sequences and mappings. A node may carry an anchor and a tag, and an
alias stands for the node with an anchor of its number. Anchors are numbered by how many different
names had been given before, so a name that is given again gets a new number; where two nodes end up
with one number, aliases stand for the later one.
-/

namespace TypedClient.Yaml

/-- What a node carries besides its content. -/
structure Properties where
  anchor : Option Nat
  tag : Option String

/-- No anchor and no tag. -/
def Properties.none : Properties := ⟨.none, .none⟩

/-- A node of a document. -/
inductive Node
  | alias (number : Nat)
  | scalar (properties : Properties) (style : Style) (text : String)
  | sequence (properties : Properties) (items : List Node)
  | mapping (properties : Properties) (entries : List (Node × Node))

namespace Node

/-- The node that stands where nothing is written. -/
def empty : Node := .scalar .none .plain ""

/-- The node with its number, if it has an anchor. -/
def numbered (properties : Properties) (node : Node) : List (Nat × Node) :=
  match properties.anchor with
  | some number => [(number, node)]
  | none => []

mutual

/-- The nodes with anchors in the order in which they begin. -/
def anchored : Node → List (Nat × Node)
  | .alias _ => []
  | .scalar properties style text => numbered properties (.scalar properties style text)
  | .sequence properties items =>
    numbered properties (.sequence properties items) ++ anchoredItems items
  | .mapping properties entries =>
    numbered properties (.mapping properties entries) ++ anchoredEntries entries

/-- The nodes with anchors among the items. -/
def anchoredItems : List Node → List (Nat × Node)
  | [] => []
  | item :: rest => anchored item ++ anchoredItems rest

/-- The nodes with anchors among the keys and values. -/
def anchoredEntries : List (Node × Node) → List (Nat × Node)
  | [] => []
  | (key, value) :: rest => anchored key ++ anchored value ++ anchoredEntries rest

end

mutual

/-- The number of scalars, aliases and ends of collections. -/
def size : Node → Nat
  | .alias _ => 1
  | .scalar _ _ _ => 1
  | .sequence _ items => 2 + sizeItems items
  | .mapping _ entries => 2 + sizeEntries entries

/-- The size of the items together. -/
def sizeItems : List Node → Nat
  | [] => 0
  | item :: rest => size item + sizeItems rest

/-- The size of the keys and values together. -/
def sizeEntries : List (Node × Node) → Nat
  | [] => 0
  | (key, value) :: rest => size key + size value + sizeEntries rest

end

end Node

/-- The nodes that the aliases of a document stand for. -/
structure Anchors where
  nodes : List (Nat × Node)

/-- The anchors below a node. -/
def Anchors.ofNode (node : Node) : Anchors := ⟨node.anchored.reverse⟩

/-- The node that an alias stands for; an alias never stands for another one. -/
def Anchors.target (anchors : Anchors) (number : Nat) : Node :=
  (anchors.nodes.lookup number).getD .empty

end TypedClient.Yaml
