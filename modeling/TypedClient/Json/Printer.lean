import TypedClient.Json.Basic
import TypedClient.Number.Shortest

/-!
# Writing JSON

`Json.compact` writes a value without any blank, entries in their order. Strings escape the quote,
the backslash and the control characters below U+0020, and nothing else, so equal texts come from
equal strings. `Json.pretty` writes the same value with one entry or item to a line.
-/

namespace TypedClient.Json

/-! ## Strings -/

/-- A hexadecimal digit in lower case. -/
def hexDigit (n : Nat) : Char :=
  if n < 10 then Char.ofNat (48 + n) else Char.ofNat (87 + n)

/-- What is written for one character of a string. -/
def escapeChar (c : Char) : List Char :=
  if c = '"' then ['\\', '"']
  else if c = '\\' then ['\\', '\\']
  else if c = '\n' then ['\\', 'n']
  else if c = '\r' then ['\\', 'r']
  else if c = '\t' then ['\\', 't']
  else if c = '\x08' then ['\\', 'b']
  else if c = '\x0c' then ['\\', 'f']
  else if c.toNat < 0x20 then
    ['\\', 'u', '0', '0', hexDigit (c.toNat / 16), hexDigit (c.toNat % 16)]
  else [c]

/-- The characters of a string literal between its quotes. -/
def escape (cs : List Char) : List Char :=
  cs.flatMap escapeChar

/-- A string literal. -/
def quote (s : String) : List Char :=
  '"' :: escape s.toList ++ ['"']

/-! ## Numbers -/

/-- Decimal exponents from -5 to 15 are written in place, larger ones after `e+`. -/
def numberLayout : TypedClient.Number.Layout := ⟨-5, 15, "+"⟩

/-- The text of a number: integers as they are, others with their shortest digits. -/
def Number.text : Json.Number → String
  | .int n => toString n
  | .real x => x.render numberLayout

/-! ## Values without blanks -/

mutual

/-- The compact text of a value. -/
def compactChars : Json → List Char
  | .null => "null".toList
  | .bool true => "true".toList
  | .bool false => "false".toList
  | .number n => n.text.toList
  | .string s => quote s
  | .array [] => ['[', ']']
  | .array (item :: rest) => '[' :: compactChars item ++ compactItems rest
  | .object [] => ['\x7b', '\x7d']
  | .object ((key, value) :: rest) =>
    '\x7b' :: quote key ++ ':' :: compactChars value ++ compactEntries rest

/-- The items after the first one, and the bracket that ends them. -/
def compactItems : List Json → List Char
  | [] => [']']
  | item :: rest => ',' :: compactChars item ++ compactItems rest

/-- The entries after the first one, and the brace that ends them. -/
def compactEntries : List (String × Json) → List Char
  | [] => ['\x7d']
  | (key, value) :: rest => ',' :: quote key ++ ':' :: compactChars value ++ compactEntries rest

end

/-- The compact text of a value. -/
def compact (value : Json) : String :=
  String.ofList (compactChars value)

/-! ## Values on several lines -/

/-- A line feed and the blanks that open a line at the given level. -/
def newline (level : Nat) : List Char :=
  '\n' :: List.replicate (2 * level) ' '

mutual

/-- The text of a value whose first character stands at the given level; empty containers stay
closed, all others have one item to a line. -/
def prettyChars (level : Nat) : Json → List Char
  | .array (item :: rest) =>
    '[' :: newline (level + 1) ++ prettyChars (level + 1) item ++ prettyItems level rest
  | .object ((key, value) :: rest) =>
    '\x7b' :: newline (level + 1) ++ quote key ++ ':' :: ' ' :: prettyChars (level + 1) value ++
      prettyEntries level rest
  | value => compactChars value

/-- The items after the first one, and the bracket that ends them. -/
def prettyItems (level : Nat) : List Json → List Char
  | [] => newline level ++ [']']
  | item :: rest =>
    ',' :: newline (level + 1) ++ prettyChars (level + 1) item ++ prettyItems level rest

/-- The entries after the first one, and the brace that ends them. -/
def prettyEntries (level : Nat) : List (String × Json) → List Char
  | [] => newline level ++ ['\x7d']
  | (key, value) :: rest =>
    ',' :: newline (level + 1) ++ quote key ++ ':' :: ' ' :: prettyChars (level + 1) value ++
      prettyEntries level rest

end

/-- The text of a value with one item or entry to a line, indented by two blanks a level. -/
def pretty (value : Json) : String :=
  String.ofList (prettyChars 0 value)

end TypedClient.Json
