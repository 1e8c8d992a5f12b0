/-!
# Positions in a YAML text

A `Cursor` is what is left of a text together with the place it starts at. A line ends at a line
feed, a carriage return, both of them in this order, or one of the breaks NEL, LS and PS.
-/

namespace TypedClient.Yaml

/-- Why a text is not a YAML document, or not one of the expected shape. -/
inductive Fault
  /-- A character that no document may contain. -/
  | forbiddenCharacter
  /-- A character that cannot start a token. -/
  | strayCharacter
  /-- A key at the start of a line that no colon follows. -/
  | missingColon
  /-- A dash, question mark or colon where no entry, key or value can stand. -/
  | misplacedIndicator
  | badDirective
  | badAnchor
  | badTag
  /-- A malformed header of a block scalar. -/
  | badBlockHeader
  /-- A tab where only blanks can indent. -/
  | tabIndentation
  /-- A document marker inside a quoted scalar. -/
  | markerInScalar
  | unclosedScalar
  | badEscape
  /-- A colon right before another indicator of a flow collection. -/
  | unexpectedColon
  /-- A token that cannot stand where it stands. -/
  | unexpectedToken
  | unknownTagHandle
  | unknownAnchor
  /-- More than one document in the text. -/
  | severalDocuments
  | tooDeep
  /-- Aliases that repeat far more nodes than the text has. -/
  | tooManyAliases
  /-- A key twice in one mapping. -/
  | repeatedKey
  /-- A scalar or collection of another type than the expected one. -/
  | wrongType
deriving DecidableEq

/-- What is wrong with the text, in words. -/
def Fault.message : Fault → String
  | .forbiddenCharacter => "control characters are not allowed"
  | .strayCharacter => "found a character that cannot start any token"
  | .missingColon => "could not find the expected colon after a key"
  | .misplacedIndicator => "entries, keys or values are not allowed in this place"
  | .badDirective => "malformed directive"
  | .badAnchor => "malformed anchor or alias"
  | .badTag => "malformed tag"
  | .badBlockHeader => "malformed header of a block scalar"
  | .tabIndentation => "found a tab where blanks are expected"
  | .markerInScalar => "found a document marker inside a quoted scalar"
  | .unclosedScalar => "found the end of the text inside a quoted scalar"
  | .badEscape => "invalid escape"
  | .unexpectedColon => "found an unexpected colon"
  | .unexpectedToken => "found an unexpected token"
  | .unknownTagHandle => "found an undefined tag handle"
  | .unknownAnchor => "unknown anchor"
  | .severalDocuments => "more than one document"
  | .tooDeep => "nested too deeply"
  | .tooManyAliases => "aliases repeat too much"
  | .repeatedKey => "duplicate entry in a mapping"
  | .wrongType => "value of an unexpected type"

/-! ## Character classes -/

/-- Space and tab. -/
def isBlank (c : Char) : Bool := c = ' ' || c = '\t'

/-- The characters that end a line. -/
def isBreak (c : Char) : Bool :=
  c = '\r' || c = '\n' || c = '\u0085' || c = '\u2028' || c = '\u2029'

/-- The characters of names of anchors, directives and tag handles. -/
def isWordChar (c : Char) : Bool := c.isAlphanum || c = '_' || c = '-'

/-- The characters that a text may contain. -/
def isAllowed (c : Char) : Bool :=
  let n := c.toNat
  n == 0x09 || n == 0x0A || n == 0x0D || (0x20 ≤ n && n ≤ 0x7E) || n == 0x85 ||
  (0xA0 ≤ n && n ≤ 0xD7FF) || (0xE000 ≤ n && n ≤ 0xFFFD) || (0x10000 ≤ n && n ≤ 0x10FFFF)

/-- Whether a blank, a break or the end of the text comes first. -/
def atBlankOrEnd : List Char → Bool
  | [] => true
  | c :: _ => isBlank c || isBreak c

/-! ## Cursors -/

/-- The rest of a text and its place: the number of characters, of lines and of characters on the
line before it. -/
structure Cursor where
  rest : List Char
  index : Nat
  line : Nat
  column : Nat

namespace Cursor

/-- The start of a text. -/
def start (cs : List Char) : Cursor := ⟨cs, 0, 0, 0⟩

/-- The next character. -/
def peek (c : Cursor) : Option Char := c.rest.head?

/-- Whether the given character comes next. -/
def sees (c : Cursor) (x : Char) : Bool := c.rest.head? == some x

/-- Goes over `n` characters on the same line. -/
def skip (c : Cursor) (n : Nat) : Cursor :=
  { c with rest := c.rest.drop n, index := c.index + n, column := c.column + n }

/-- Goes over the characters on the same line that satisfy `p`. -/
def skipWhile (c : Cursor) (p : Char → Bool) : Cursor :=
  c.skip (c.rest.takeWhile p).length

/-- Goes over the end of a line and tells what it counts as in a scalar: a line feed, except that
LS and PS count as themselves. -/
def takeBreak? (c : Cursor) : Option (Char × Cursor) :=
  match c.rest with
  | '\r' :: '\n' :: rest => some ('\n', ⟨rest, c.index + 2, c.line + 1, 0⟩)
  | x :: rest =>
    if isBreak x then
      some (if x = '\u2028' || x = '\u2029' then x else '\n', ⟨rest, c.index + 1, c.line + 1, 0⟩)
    else none
  | [] => none

/-- Goes over a comment, if one comes next. -/
def skipComment (c : Cursor) : Cursor :=
  if c.sees '#' then c.skipWhile (fun x => !isBreak x) else c

/-- Whether the line starts here with a document marker made of three times the given character. -/
def atMarker (c : Cursor) (x : Char) : Bool :=
  c.column == 0 && (c.rest.take 3 == [x, x, x]) && atBlankOrEnd (c.rest.drop 3)

/-- Whether a document marker of either kind stands here. -/
def atDocumentMarker (c : Cursor) : Bool := c.atMarker '-' || c.atMarker '.'

end Cursor

end TypedClient.Yaml
