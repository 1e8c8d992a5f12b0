import TypedClient.Yaml.Node
import TypedClient.Yaml.Token.Lexer

/-!
# From YAML tokens to nodes

A node is read off the front of a token list. Reading goes by the kind of the next token, and a place
where a key, a value or an entry is announced but none follows holds the empty node. Besides the
tokens the reader keeps the handles of tags and the numbers of anchor names. Every call takes a
token or is followed by one that does, so the number of tokens bounds the calls.
-/

namespace TypedClient.Yaml

/-- What is left to read, and what is known from before. -/
structure Reading where
  tokens : List Token
  /-- What the tag handles stand for. -/
  handles : List (String × String)
  /-- The numbers of the anchor names, the latest first. -/
  anchors : List (String × Nat)

namespace Reading

/-- The next token. -/
def next? (r : Reading) : Option Token := r.tokens.head?

/-- Whether the given token comes next. -/
def sees (r : Reading) (token : Token) : Bool := r.tokens.head? == some token

/-- Whether one of the given tokens comes next. -/
def seesAny (r : Reading) (tokens : List Token) : Bool := r.tokens.head?.any tokens.contains

/-- Without the next token. -/
def drop (r : Reading) : Reading := { r with tokens := r.tokens.drop 1 }

/-- Gives the next number to an anchor name. -/
def nameAnchor (r : Reading) (name : String) : Nat × Reading :=
  let number := (r.anchors.map Prod.fst).eraseDups.length
  (number, { r with anchors := (name, number) :: r.anchors })

/-- The full tag of a handle and a suffix. -/
def fullTag (r : Reading) (handle suffix : String) : Except Fault String :=
  if handle = "" then .ok suffix
  else
    match r.handles.lookup handle with
    | some expansion => .ok (expansion ++ suffix)
    | none => .error .unknownTagHandle

/-- Reads an anchor, if one comes next. -/
def takeAnchor (r : Reading) : Option String × Reading :=
  match r.next? with
  | some (.anchor name) => (some name, r.drop)
  | _ => (none, r)

/-- Reads a tag, if one comes next. -/
def takeTag (r : Reading) : Except Fault (Option String × Reading) :=
  match r.next? with
  | some (.tag handle suffix) => do return (some (← r.fullTag handle suffix), r.drop)
  | _ => .ok (none, r)

/-- Reads an anchor and a tag in either order; both may be missing. -/
def takeProperties (r : Reading) : Except Fault (Properties × Reading) := do
  let (before, r) := r.takeAnchor
  let (tag, r) ← r.takeTag
  let (name, r) := match before with
    | some name => (some name, r)
    | none => if tag.isSome then r.takeAnchor else (none, r)
  match name with
  | none => return (⟨none, tag⟩, r)
  | some name =>
    let (number, r) := r.nameAnchor name
    return (⟨some number, tag⟩, r)

/-- The node of a scalar token; the tag `!` only says that there is no other one. -/
def scalarNode (properties : Properties) (style : Style) (text : String) : Node :=
  .scalar (if properties.tag = some "!" then { properties with tag := none } else properties) style text

/-- The tokens before which a value or entry of a block is empty. -/
def blockStops : List Token := [.key, .value, .blockEnd]

mutual

/-- Reads a node. In a block it may be a block collection; where a sequence needs no indentation of
its own, it may also begin with a dash. -/
def node : (fuel : Nat) → (block : Bool) → (dashes : Bool) → Reading → Except Fault (Node × Reading)
  | 0, _, _, _ => .error .unexpectedToken
  | fuel + 1, block, dashes, r =>
    match r.next? with
    | some (.alias name) =>
      match r.anchors.lookup name with
      | some number => .ok (.alias number, r.drop)
      | none => .error .unknownAnchor
    | _ => do
      let (properties, r) ← r.takeProperties
      match r.next? with
      | some (.scalar style text) => return (scalarNode properties style text, r.drop)
      | some .flowSequenceStart =>
        let (items, r) ← flowItems fuel true r.drop
        return (.sequence properties items, r)
      | some .flowMappingStart =>
        let (entries, r) ← flowEntries fuel true r.drop
        return (.mapping properties entries, r)
      | token =>
        if dashes && token = some .blockEntry then
          let (items, r) ← dashItems fuel r
          return (.sequence properties items, r)
        else if block && token = some .blockSequenceStart then
          let (items, r) ← blockItems fuel r.drop
          return (.sequence properties items, r)
        else if block && token = some .blockMappingStart then
          let (entries, r) ← blockEntries fuel r.drop
          return (.mapping properties entries, r)
        else if properties.anchor.isSome || properties.tag.isSome then
          return (.scalar properties .plain "", r)
        else throw .unexpectedToken

/-- Reads a node, or the empty node before one of the given tokens. -/
def nodeBefore : (fuel : Nat) → (stops : List Token) → (block dashes : Bool) → Reading →
    Except Fault (Node × Reading)
  | 0, _, _, _, _ => .error .unexpectedToken
  | fuel + 1, stops, block, dashes, r =>
    if r.seesAny stops then .ok (.empty, r) else node fuel block dashes r

/-- Reads the items of an indented block sequence up to its end. -/
def blockItems : (fuel : Nat) → Reading → Except Fault (List Node × Reading)
  | 0, _ => .error .unexpectedToken
  | fuel + 1, r =>
    if r.sees .blockEntry then do
      let (item, r) ← nodeBefore fuel [.blockEntry, .blockEnd] true false r.drop
      let (rest, r) ← blockItems fuel r
      return (item :: rest, r)
    else if r.sees .blockEnd then .ok ([], r.drop)
    else .error .unexpectedToken

/-- Reads the items of a block sequence that is not indented. -/
def dashItems : (fuel : Nat) → Reading → Except Fault (List Node × Reading)
  | 0, _ => .error .unexpectedToken
  | fuel + 1, r =>
    if r.sees .blockEntry then do
      let (item, r) ← nodeBefore fuel (.blockEntry :: blockStops) true false r.drop
      let (rest, r) ← dashItems fuel r
      return (item :: rest, r)
    else .ok ([], r)

/-- Reads the entries of a block mapping up to its end. -/
def blockEntries : (fuel : Nat) → Reading → Except Fault (List (Node × Node) × Reading)
  | 0, _ => .error .unexpectedToken
  | fuel + 1, r =>
    if r.sees .key then do
      let (key, r) ← nodeBefore fuel blockStops true true r.drop
      let (value, r) ←
        if r.sees .value then nodeBefore fuel blockStops true true r.drop
        else pure (.empty, r)
      let (rest, r) ← blockEntries fuel r
      return ((key, value) :: rest, r)
    else if r.sees .blockEnd then .ok ([], r.drop)
    else .error .unexpectedToken

/-- Reads the items of a flow sequence up to its bracket. An item may be a single entry, which makes
a mapping of its own. -/
def flowItems : (fuel : Nat) → (first : Bool) → Reading → Except Fault (List Node × Reading)
  | 0, _, _ => .error .unexpectedToken
  | fuel + 1, first, r =>
    if r.sees .flowSequenceEnd then .ok ([], r.drop)
    else do
      if !first && !r.sees .flowEntry then throw .unexpectedToken
      let r := if first then r else r.drop
      if r.sees .key then
        let (entry, r) ← loneEntry fuel r.drop
        let (rest, r) ← flowItems fuel false r
        return (.mapping .none [entry] :: rest, r)
      else if r.sees .flowSequenceEnd then return ([], r.drop)
      else
        let (item, r) ← node fuel false false r
        let (rest, r) ← flowItems fuel false r
        return (item :: rest, r)

/-- Reads a single entry of a flow sequence behind its key mark. Where the key is left out, the token
in its place is passed over. -/
def loneEntry : (fuel : Nat) → Reading → Except Fault ((Node × Node) × Reading)
  | 0, _ => .error .unexpectedToken
  | fuel + 1, r => do
    let (key, r) ←
      if r.seesAny [.value, .flowEntry, .flowSequenceEnd] then pure (.empty, r.drop)
      else node fuel false false r
    let (value, r) ←
      if r.sees .value then nodeBefore fuel [.flowEntry, .flowSequenceEnd] false false r.drop
      else pure (.empty, r)
    return ((key, value), r)

/-- Reads the entries of a flow mapping up to its brace. -/
def flowEntries : (fuel : Nat) → (first : Bool) → Reading →
    Except Fault (List (Node × Node) × Reading)
  | 0, _, _ => .error .unexpectedToken
  | fuel + 1, first, r =>
    if r.sees .flowMappingEnd then .ok ([], r.drop)
    else do
      if !first && !r.sees .flowEntry then throw .unexpectedToken
      let r := if first then r else r.drop
      if r.sees .key then
        let (key, r) ← nodeBefore fuel [.value, .flowEntry, .flowMappingEnd] false false r.drop
        let (value, r) ←
          if r.sees .value then nodeBefore fuel [.flowEntry, .flowMappingEnd] false false r.drop
          else pure (.empty, r)
        let (rest, r) ← flowEntries fuel false r
        return ((key, value) :: rest, r)
      else if r.sees .flowMappingEnd then return ([], r.drop)
      else
        let (key, r) ← node fuel false false r
        let (rest, r) ← flowEntries fuel false r
        return ((key, .empty) :: rest, r)

end

/-! ## Documents -/

/-- The handles that need no directive. -/
def defaultHandles : List (String × String) := [("!", "!"), ("!!", "tag:yaml.org,2002:")]

/-- Reads the directives before a document; `versioned` tells whether a version was given. -/
def directives (versioned : Bool) (handles : List (String × String)) :
    List Token → Except Fault (List (String × String) × List Token)
  | .version major minor :: rest =>
    if versioned || major ≠ 1 || (minor ≠ 1 && minor ≠ 2) then .error .badDirective
    else directives true handles rest
  | .tagHandle handle expansion :: rest =>
    if (handles.lookup handle).isSome then .error .badDirective
    else directives versioned ((handle, expansion) :: handles) rest
  | rest => .ok (handles, rest)

/-- Whether a token comes before a document that is announced by a marker. -/
def isExplicit : Option Token → Bool
  | some (.version _ _) => true
  | some (.tagHandle _ _) => true
  | some .documentStart => true
  | _ => false

/-- Reads the root of the only document; without any content there is none. -/
def document (tokens : List Token) : Except Fault (Option Node) := do
  if tokens = [.streamEnd] then return none
  let explicit := isExplicit tokens.head?
  let (handles, tokens) ← directives false [] tokens
  let fuel := 4 * tokens.length + 4
  let r : Reading := ⟨tokens, handles ++ defaultHandles, []⟩
  let (root, r) ←
    if explicit then
      if !r.sees .documentStart then throw .unexpectedToken
      let r := r.drop
      let ends := r.seesAny [.documentStart, .documentEnd, .streamEnd] || isExplicit r.next?
      if ends then pure (.empty, r) else node fuel true false r
    else node fuel true false r
  match r.tokens.dropWhile (· = .documentEnd) with
  | [.streamEnd] => return some root
  | _ => throw .severalDocuments

end Reading

/-- Reads the root of the only document of a text; a text without content has none. -/
def Node.parse (text : String) : Except Fault (Option Node) := do
  Reading.document (← Token.scan text.toList)

end TypedClient.Yaml
