import TypedClient.Yaml.ScalarForm

/-!
# Writing YAML

Collections are written in blocks, one item or entry to a line, and only empty ones in brackets. A
sequence inside a mapping is not indented. A key is written on its line if it is a scalar without
breaks or an empty collection and not too long, otherwise behind a question mark. The writer is a
`Pen` that knows whether it stands behind a blank and whether only indentation came before.
-/

namespace TypedClient.Yaml

/-- What is written so far, in reverse, and the place where it ends. -/
structure Pen where
  written : List Char
  column : Nat
  /-- Whether a blank or nothing came last. -/
  spaced : Bool
  /-- Whether the line holds nothing but indentation and entry marks. -/
  indenting : Bool

namespace Pen

/-- A pen at the start of a text. -/
def start : Pen := ⟨[], 0, true, true⟩

/-- Writes characters of one line. -/
def put (pen : Pen) (cs : List Char) : Pen :=
  { pen with written := cs.reverse ++ pen.written, column := pen.column + cs.length }

/-- Writes a break. -/
def putBreak (pen : Pen) (c : Char) : Pen :=
  { pen with written := c :: pen.written, column := 0 }

/-- Goes to the given column, on a new line unless the present one is still free up to there. -/
def indentTo (pen : Pen) (column : Nat) : Pen :=
  let fresh := !pen.indenting || pen.column > column || (pen.column == column && !pen.spaced)
  let pen := if fresh then pen.putBreak '\n' else pen
  { pen.put (List.replicate (column - pen.column) ' ') with spaced := true, indenting := true }

/-- Writes a mark, behind a blank if it needs one. -/
def mark (pen : Pen) (cs : List Char) (needsBlank indents : Bool) : Pen :=
  let pen := if needsBlank && !pen.spaced then pen.put [' '] else pen
  { pen.put cs with spaced := false, indenting := pen.indenting && indents }

/-! ## Scalars -/

/-- Writes a row of characters behind a blank. -/
def word (pen : Pen) (cs : List Char) : Pen :=
  let pen := if !pen.spaced && cs ≠ [] then pen.put [' '] else pen
  { pen.put cs with spaced := false, indenting := false }

/-- Writes the inside of single quotes: a quote twice, and a line feed as one more than it is. -/
def singleBody (indent : Nat) : (broken : Bool) → Pen → List Char → Pen
  | broken, pen, [] => if broken then pen.indentTo indent else pen
  | broken, pen, c :: cs =>
    if isBreak c then
      let pen := if !broken && c = '\n' then pen.putBreak '\n' else pen
      singleBody indent true { pen.putBreak c with indenting := true } cs
    else
      let pen := if broken && c ≠ ' ' then pen.indentTo indent else pen
      let pen := pen.put (if c = '\'' then ['\'', '\''] else [c])
      singleBody indent (broken && c = ' ') { pen with indenting := pen.indenting && c = ' ' } cs

/-- Writes the lines of a literal block. -/
def literalBody (indent : Nat) : (broken : Bool) → Pen → List Char → Pen
  | _, pen, [] => pen
  | broken, pen, c :: cs =>
    if isBreak c then literalBody indent true { pen.putBreak c with indenting := true } cs
    else
      let pen := if broken then pen.indentTo indent else pen
      literalBody indent false { pen.put [c] with indenting := false } cs

/-- The marks behind the bar of a literal block: the indentation if the text starts with a blank or
a break, and what happens to the breaks at its end. -/
def literalHints (cs : List Char) : List Char :=
  (if cs.head?.any (fun c => c = ' ' || isBreak c) then ['2'] else []) ++
  match cs.reverse with
  | [] => ['-']
  | last :: before =>
    if !isBreak last then ['-']
    else if before.head?.all isBreak then ['+']
    else []

/-- Writes a scalar; `indent` is the column of its further lines. -/
def scalar (pen : Pen) (indent : Nat) (style : Style) (cs : List Char) : Pen :=
  match style with
  | .plain => pen.word cs
  | .singleQuoted =>
    let pen := (pen.mark ['\''] true false)
    let pen := (singleBody indent false pen cs).mark ['\''] false false
    { pen with spaced := false, indenting := false }
  | .doubleQuoted => (pen.mark ['"'] true false).put (cs.flatMap escapeChar) |>.mark ['"'] false false
  | _ =>
    let pen := (pen.mark ['|'] true false).put (literalHints cs)
    literalBody indent true { pen.putBreak '\n' with spaced := true, indenting := true } cs

end Pen

/-! ## Values -/

/-- The text of a scalar value and the style that it asks for; collections have none. -/
def Value.scalarText? : Value → Option (String × Style)
  | .null => some ("null", .plain)
  | .bool true => some ("true", .plain)
  | .bool false => some ("false", .plain)
  | .number n => some (n.text, .plain)
  | .string s => some (s, preferredStyle s)
  | _ => none

/-- The value without its local tags, and the written form of the tag. -/
def Value.untag : Value → List Char × Value
  | .tagged tag value => ('!' :: escapeTag tag, value)
  | value => ([], value)

/-- The number of bytes that a local tag counts in a key. -/
def Value.tagBytes : Value → Nat
  | .tagged tag _ => tag.utf8ByteSize + 1
  | _ => 0

/-- Whether a key is written on its line. -/
def Value.isSimpleKey (key : Value) : Bool :=
  let inner := key.untag.2
  match inner.scalarText? with
  | some (text, _) =>
    !text.toList.any isBreak && key.tagBytes + text.utf8ByteSize ≤ 128
  | none =>
    match inner with
    | .sequence [] => key.tagBytes ≤ 128
    | .mapping [] => key.tagBytes ≤ 128
    | _ => false

/-- The column of a collection inside one at the given column, or outside all. -/
def deeper (column : Option Nat) : Nat :=
  match column with
  | none => 0
  | some n => n + 2

/-- Writes a scalar value inside a collection at the given column. -/
def writeScalar (column : Option Nat) (simpleKey : Bool) (text : String) (preferred : Style)
    (pen : Pen) : Pen :=
  let cs := text.toList
  pen.scalar ((column.getD 0) + 2) ((Survey.ofChars cs).style preferred simpleKey) cs

mutual

/-- Writes a value. `column` is that of the collection around it, `inMapping` tells whether that is
a mapping, `simpleKey` whether the value is a key on its line. -/
def write (column : Option Nat) (inMapping simpleKey : Bool) (pen : Pen) : Value → Pen
  | .tagged tag value =>
    write column inMapping simpleKey (pen.word ('!' :: escapeTag tag)) value
  | .sequence [] => (pen.mark ['['] true false).mark [']'] false false
  | .sequence (item :: rest) =>
    let column :=
      match column with
      | some n => if inMapping && !pen.indenting then n else n + 2
      | none => 0
    writeItems column pen (item :: rest)
  | .mapping [] => (pen.mark ['\x7b'] true false).mark ['\x7d'] false false
  | .mapping (entry :: rest) => writeEntries (deeper column) pen (entry :: rest)
  | .null => writeScalar column simpleKey "null" .plain pen
  | .bool b => writeScalar column simpleKey (if b then "true" else "false") .plain pen
  | .number n => writeScalar column simpleKey n.text .plain pen
  | .string s => writeScalar column simpleKey s (preferredStyle s) pen

/-- Writes the items of a sequence at the given column. -/
def writeItems (column : Nat) (pen : Pen) : List Value → Pen
  | [] => pen
  | item :: rest =>
    let pen := (pen.indentTo column).mark ['-'] true true
    writeItems column (write (some column) false false pen item) rest

/-- Writes the entries of a mapping at the given column. -/
def writeEntries (column : Nat) (pen : Pen) : List (Value × Value) → Pen
  | [] => pen
  | (key, value) :: rest =>
    let pen := pen.indentTo column
    let pen :=
      if key.isSimpleKey then (write (some column) true true pen key).mark [':'] false false
      else
        let pen := write (some column) true false (pen.mark ['?'] true true) key
        (pen.indentTo column).mark [':'] true true
    writeEntries column (write (some column) true false pen value) rest

end

/-- The text of a document that holds the value. -/
def Value.render (value : Value) : String :=
  String.ofList ((write none false false .start value).indentTo 0).written.reverse

end TypedClient.Yaml
