import TypedClient.Yaml.Token.Scalar
import TypedClient.Yaml.Token.Name

/-!
# From text to YAML tokens

Blocks are told apart by indentation alone, and a key shows only by the colon behind it. So the
lexer keeps the columns of the open blocks, and at every place where a key could have begun it keeps
a candidate: the number of the token that the key would stand before. When the colon comes, the key
mark is inserted there; a candidate does not outlive its line nor 1024 characters.
-/

namespace TypedClient.Yaml

/-- A place where a key may have begun. -/
structure Candidate where
  /-- Whether a colon has to follow, because the line could not mean anything else. -/
  required : Bool
  /-- The number of tokens before it. -/
  position : Nat
  index : Nat
  line : Nat
  column : Nat

/-- The state between two tokens. -/
structure Lexer where
  cursor : Cursor
  tokens : Array Token
  /-- The column of the innermost block, -1 outside all blocks. -/
  indent : Int
  /-- The columns of the blocks around it, innermost first. -/
  outer : List Int
  /-- The candidate of the innermost flow collection, or of the block outside of all. -/
  candidate : Option Candidate
  /-- The candidates of the collections around it, innermost first. -/
  suspended : List (Option Candidate)
  /-- Whether a key may begin here. -/
  keyAllowed : Bool

namespace Lexer

/-- The state at the start of a text. -/
def start (cs : List Char) : Lexer :=
  { cursor := .start cs, tokens := #[], indent := -1, outer := [], candidate := none
    suspended := [], keyAllowed := true }

/-- Whether the lexer is inside a flow collection. -/
def inFlow (l : Lexer) : Bool := !l.suspended.isEmpty

/-- Appends a token. -/
def push (l : Lexer) (token : Token) : Lexer := { l with tokens := l.tokens.push token }

/-- Appends a token and goes over its characters. -/
def pushSkip (l : Lexer) (token : Token) (count : Nat) : Lexer :=
  { l.push token with cursor := l.cursor.skip count }

/-! ## Blocks -/

/-- Opens a block at a column to the right of the innermost one; its mark goes to the given place. -/
def openBlock (l : Lexer) (column : Nat) (mark : Token) (position : Nat) : Lexer :=
  if !l.inFlow && l.indent < column then
    { l with
      outer := l.indent :: l.outer
      indent := column
      tokens := l.tokens.insertIdxIfInBounds position mark }
  else l

/-- Closes the blocks to the right of a column, innermost first. -/
def closeBlocksTo (column : Int) (l : Lexer) : List Int → Lexer
  | [] => l
  | parent :: outer =>
    if l.indent > column then
      closeBlocksTo column { l.push .blockEnd with indent := parent, outer := outer } outer
    else l

/-- Closes the blocks to the right of a column; inside a flow collection indentation is free. -/
def closeBlocks (l : Lexer) (column : Int) : Lexer :=
  if l.inFlow then l else closeBlocksTo column l l.outer

/-! ## Candidates -/

/-- Gives up the innermost candidate, unless its colon is required. -/
def dropCandidate (l : Lexer) : Except Fault Lexer :=
  if l.candidate.any (·.required) then .error .missingColon else .ok { l with candidate := none }

/-- Notes that a key may begin here. -/
def noteCandidate (l : Lexer) : Except Fault Lexer := do
  if !l.keyAllowed then return l
  let required := !l.inFlow && l.indent == (l.cursor.column : Int)
  let l ← l.dropCandidate
  let c := l.cursor
  return { l with candidate := some ⟨required, l.tokens.size, c.index, c.line, c.column⟩ }

/-- Whether a candidate lies on an earlier line, or too far back. -/
def isStale (c : Cursor) (candidate : Candidate) : Bool :=
  candidate.line < c.line || candidate.index + 1024 < c.index

/-- Gives up one stale candidate. -/
def refresh (c : Cursor) : Option Candidate → Except Fault (Option Candidate)
  | some candidate =>
    if isStale c candidate then
      if candidate.required then .error .missingColon else .ok none
    else .ok (some candidate)
  | none => .ok none

/-- Gives up all stale candidates. -/
def dropStale (l : Lexer) : Except Fault Lexer := do
  let suspended ← l.suspended.mapM (refresh l.cursor)
  let candidate ← refresh l.cursor l.candidate
  return { l with candidate := candidate, suspended := suspended }

/-! ## Blanks between tokens -/

/-- Goes over blanks, comments and line ends; a new line of a block may begin with a key, and tabs
count as blanks only where no key can begin. -/
def skipBlanks : (fuel : Nat) → Lexer → Lexer
  | 0, l => l
  | fuel + 1, l =>
    let c := if l.cursor.index = 0 && l.cursor.sees '\ufeff' then l.cursor.skip 1 else l.cursor
    let tabs := l.inFlow || !l.keyAllowed
    let c := (c.skipWhile fun x => x = ' ' || (tabs && x = '\t')).skipComment
    match c.takeBreak? with
    | some (_, c) => skipBlanks fuel { l with cursor := c, keyAllowed := l.keyAllowed || !l.inFlow }
    | none => { l with cursor := c }

/-! ## Tokens -/

/-- Takes a document marker or a directive: all blocks end before it. -/
def endBlocks (l : Lexer) : Except Fault Lexer := do
  let l ← (l.closeBlocks (-1)).dropCandidate
  return { l with keyAllowed := false }

/-- The end of the text, which also ends its last line. -/
def takeEnd (l : Lexer) : Except Fault Lexer := do
  let l ← l.endBlocks
  return l.push .streamEnd

/-- Takes an opening bracket or brace. -/
def takeOpening (l : Lexer) (token : Token) : Except Fault Lexer := do
  let l ← l.noteCandidate
  return { l.pushSkip token 1 with
    suspended := l.candidate :: l.suspended, candidate := none, keyAllowed := true }

/-- Takes a closing bracket or brace. -/
def takeClosing (l : Lexer) (token : Token) : Except Fault Lexer := do
  let l ← l.dropCandidate
  let l := { l.pushSkip token 1 with keyAllowed := false }
  match l.suspended with
  | [] => return l
  | candidate :: suspended => return { l with candidate := candidate, suspended := suspended }

/-- Takes a comma of a flow collection. -/
def takeFlowEntry (l : Lexer) : Except Fault Lexer := do
  let l ← l.dropCandidate
  return { l.pushSkip .flowEntry 1 with keyAllowed := true }

/-- Opens a block at the cursor, where its first entry, key or value has to be allowed. -/
def openBlockHere (l : Lexer) (mark : Token) : Except Fault Lexer :=
  if l.inFlow then .ok l
  else if !l.keyAllowed then .error .misplacedIndicator
  else .ok (l.openBlock l.cursor.column mark l.tokens.size)

/-- Takes the dash of a sequence entry. -/
def takeBlockEntry (l : Lexer) : Except Fault Lexer := do
  let l ← (← l.openBlockHere .blockSequenceStart).dropCandidate
  return { l.pushSkip .blockEntry 1 with keyAllowed := true }

/-- Takes a question mark. -/
def takeKey (l : Lexer) : Except Fault Lexer := do
  let l ← (← l.openBlockHere .blockMappingStart).dropCandidate
  return { l.pushSkip .key 1 with keyAllowed := !l.inFlow }

/-- Takes a colon: behind a candidate it makes that a key. -/
def takeValue (l : Lexer) : Except Fault Lexer := do
  match l.candidate with
  | some k =>
    let l := { l with tokens := l.tokens.insertIdxIfInBounds k.position .key }
    let l := l.openBlock k.column .blockMappingStart k.position
    return { l.pushSkip .value 1 with candidate := none, keyAllowed := false }
  | none =>
    let l ← l.openBlockHere .blockMappingStart
    return { l.pushSkip .value 1 with keyAllowed := !l.inFlow }

/-- Takes a token that may be a key or begin one. -/
def takeContent (l : Lexer) (scan : Cursor → Except Fault (Token × Cursor)) : Except Fault Lexer := do
  let l ← l.noteCandidate
  let (token, c) ← scan l.cursor
  return { l.push token with cursor := c, keyAllowed := false }

/-- Takes a block scalar. -/
def takeBlockScalar (l : Lexer) (folded : Bool) : Except Fault Lexer := do
  let l ← l.dropCandidate
  let (token, c) ← takeBlock folded l.indent l.cursor
  return { l.push token with cursor := c, keyAllowed := true }

/-- Takes a plain scalar. -/
def takePlainScalar (l : Lexer) : Except Fault Lexer := do
  let l ← l.noteCandidate
  let (token, c, broken) ← takePlain l.inFlow (l.indent + 1).toNat l.cursor
  return { l.push token with cursor := c, keyAllowed := broken }

/-- The characters that cannot start a plain scalar by themselves. -/
def indicators : List Char :=
  ['-', '?', ':', ',', '[', ']', '\x7b', '\x7d', '#', '&', '*', '!', '|', '>', '\'', '"', '%', '@',
    '\x60']

/-- Whether a plain scalar starts here. -/
def atPlain (l : Lexer) (x : Char) (rest : List Char) : Bool :=
  !(isBlank x || isBreak x || indicators.contains x) ||
  (x = '-' && !(rest.head?.any isBlank)) ||
  (!l.inFlow && (x = '?' || x = ':') && !atBlankOrEnd rest)

/-- Takes the token that starts with the given character. -/
def takeToken (l : Lexer) (x : Char) (rest : List Char) : Except Fault Lexer := do
  let c := l.cursor
  if c.column = 0 && x = '%' then
    let l ← l.endBlocks
    let (token, c) ← takeDirective l.cursor
    return { l.push token with cursor := c }
  else if c.atMarker '-' then return (← l.endBlocks).pushSkip .documentStart 3
  else if c.atMarker '.' then return (← l.endBlocks).pushSkip .documentEnd 3
  else if x = '[' then l.takeOpening .flowSequenceStart
  else if x = '\x7b' then l.takeOpening .flowMappingStart
  else if x = ']' then l.takeClosing .flowSequenceEnd
  else if x = '\x7d' then l.takeClosing .flowMappingEnd
  else if x = ',' then l.takeFlowEntry
  else if x = '-' && atBlankOrEnd rest then l.takeBlockEntry
  else if x = '?' && (l.inFlow || atBlankOrEnd rest) then l.takeKey
  else if x = ':' && (l.inFlow || atBlankOrEnd rest) then l.takeValue
  else if x = '*' then
    l.takeContent fun c => do let (name, c) ← takeAnchorName c; return (.alias name, c)
  else if x = '&' then
    l.takeContent fun c => do let (name, c) ← takeAnchorName c; return (.anchor name, c)
  else if x = '!' then l.takeContent (takeTag l.inFlow)
  else if x = '|' && !l.inFlow then l.takeBlockScalar false
  else if x = '>' && !l.inFlow then l.takeBlockScalar true
  else if x = '\'' then l.takeContent (takeQuoted true)
  else if x = '"' then l.takeContent (takeQuoted false)
  else if l.atPlain x rest then l.takePlainScalar
  else throw .strayCharacter

/-- Takes all tokens up to the end of the text. Every token has a character of its own. -/
def run : (fuel : Nat) → Lexer → Except Fault Lexer
  | 0, l => l.takeEnd
  | fuel + 1, l => do
    let l := skipBlanks (l.cursor.rest.length + 1) l
    let l ← l.dropStale
    match l.cursor.rest with
    | [] => (l.closeBlocks l.cursor.column).takeEnd
    | x :: rest => run fuel (← (l.closeBlocks l.cursor.column).takeToken x rest)

end Lexer

/-- The tokens of a text. -/
def Token.scan (cs : List Char) : Except Fault (List Token) := do
  if !cs.all isAllowed then throw .forbiddenCharacter
  let l ← Lexer.run (cs.length + 1) (.start cs)
  return l.tokens.toList

end TypedClient.Yaml
