import TypedClient.Yaml.Cursor

/-!
# YAML tokens

The tokens of a text are its indicators, names and scalars, and besides them the marks where block
collections begin and end, which the text shows by indentation only.
-/

namespace TypedClient.Yaml

/-- How a scalar is written. -/
inductive Style
  | plain
  | singleQuoted
  | doubleQuoted
  | literal
  | folded
deriving DecidableEq

/-- A token of a text. -/
inductive Token
  | version (major minor : Nat)
  /-- A handle and what it stands for in tags. -/
  | tagHandle (handle expansion : String)
  | documentStart
  | documentEnd
  | streamEnd
  | blockSequenceStart
  | blockMappingStart
  | blockEnd
  | flowSequenceStart
  | flowSequenceEnd
  | flowMappingStart
  | flowMappingEnd
  | blockEntry
  | flowEntry
  | key
  | value
  | alias (name : String)
  | anchor (name : String)
  | tag (handle suffix : String)
  | scalar (style : Style) (text : String)
deriving DecidableEq

/-! ## Line folding -/

/-- The blanks or line breaks between two words of a scalar. -/
inductive Gap
  | none
  /-- Blanks on one line. -/
  | blanks (cs : List Char)
  /-- Breaks: the first one, unless it is escaped, and the others. -/
  | breaks (first : Option Char) (more : List Char)

/-- The gap with one more blank; blanks next to a break do not count. -/
def Gap.addBlank (c : Char) : Gap → Gap
  | .none => .blanks [c]
  | .blanks cs => .blanks (cs ++ [c])
  | .breaks first more => .breaks first more

/-- The gap with one more break; blanks before a break do not count. -/
def Gap.addBreak (c : Char) : Gap → Gap
  | .none => .breaks (some c) []
  | .blanks _ => .breaks (some c) []
  | .breaks first more => .breaks first (more ++ [c])

/-- Whether the gap has a break. -/
def Gap.isBroken : Gap → Bool
  | .breaks _ _ => true
  | _ => false

/-- What a gap counts as: a lone line feed as one blank, further ones as themselves. -/
def Gap.text : Gap → List Char
  | .none => []
  | .blanks cs => cs
  | .breaks first more =>
    if first = some '\n' then (if more = [] then [' '] else more) else first.toList ++ more

end TypedClient.Yaml
