import TypedClient.Text.Letter.Table

/-!
# Letters and their case

Classes and case mappings of all characters. Below U+0080 they are those of ASCII; from there on the
tables decide. A mapping may give several characters, such as `SS` for the upper case of `ß`.
-/

namespace TypedClient.Text

/-- Whether a run of a table holds the character. -/
def inRuns (runs : List Letter.Run) (c : Char) : Bool :=
  runs.any fun run => run.contains c.toNat

/-- Letters and numbers. -/
def isAlphanumeric (c : Char) : Bool :=
  if c.toNat < 0x80 then c.isAlphanum else inRuns Letter.alphanumeric c

/-- Upper-case characters. -/
def isUpper (c : Char) : Bool :=
  if c.toNat < 0x80 then c.isUpper else inRuns Letter.uppercase c

/-- Lower-case characters. -/
def isLower (c : Char) : Bool :=
  if c.toNat < 0x80 then c.isLower else inRuns Letter.lowercase c

/-- A character moved by the run of a table that holds it. -/
def shift (shifts : List Letter.Shift) (c : Char) : Char :=
  match shifts.find? fun shift => shift.run.contains c.toNat with
  | some shift => Char.ofNat (c.toNat + shift.distance).toNat
  | none => c

/-- The upper-case form of a character. -/
def toUpper (c : Char) : List Char :=
  if c.toNat < 0x80 then [c.toUpper]
  else
    match Letter.toUpperSeveral.lookup c.toNat with
    | some several => several.map Char.ofNat
    | none => [shift Letter.toUpper c]

/-- The lower-case form of a character. -/
def toLower (c : Char) : List Char :=
  if c.toNat < 0x80 then [c.toLower]
  else if c = 'İ' then ['i', '\u0307']
  else [shift Letter.toLower c]

end TypedClient.Text
