import TypedClient.Yaml.Token

/-!
# Scanning YAML names

Anchors, aliases, tags and directives. A tag is either verbatim in angle brackets, or a handle with
a suffix; the handle `!` also stands for tags that are local to the document. A percent sign in a
tag writes a byte by its number, and the bytes together have to be UTF-8 in their form.
-/

namespace TypedClient.Yaml

/-! ## Anchors and aliases -/

/-- Scans the name behind `&` or `*`. -/
def takeAnchorName (c : Cursor) : Except Fault (String × Cursor) :=
  let c := c.skip 1
  let name := c.rest.takeWhile isWordChar
  let c := c.skip name.length
  let ends := match c.rest with
    | [] => true
    | x :: _ => isBlank x || isBreak x || ['?', ':', ',', ']', '\x7d', '%', '@', '\x60'].contains x
  if name = [] || !ends then .error .badAnchor else .ok (String.ofList name, c)

/-! ## Tags -/

/-- The characters of a tag, besides those of words. -/
def tagChars : List Char :=
  [';', '/', '?', ':', '@', '&', '=', '+', '$', '.', '%', '!', '~', '*', '\'', '(', ')']

/-- Whether a character may stand in a tag; commas and brackets only where `wide` is set. -/
def isTagChar (wide : Bool) (c : Char) : Bool :=
  isWordChar c || tagChars.contains c || (wide && (c = ',' || c = '[' || c = ']'))

/-- The number that two hexadecimal digits behind a percent sign spell. -/
def escapedByte (cs : List Char) : Option (Nat × List Char) :=
  match cs with
  | '%' :: a :: b :: rest => do
    let digit (x : Char) : Option Nat :=
      if x.isDigit then some (x.toNat - 48)
      else if 'a' ≤ x ∧ x ≤ 'f' then some (x.toNat - 87)
      else if 'A' ≤ x ∧ x ≤ 'F' then some (x.toNat - 55)
      else none
    return ((← digit a) * 16 + (← digit b), rest)
  | _ => none

/-- How many bytes follow the first byte of a character, and the bits it contributes. -/
def leadingByte (n : Nat) : Option (Nat × Nat) :=
  if n < 0x80 then some (0, n)
  else if 0xC0 ≤ n && n < 0xE0 then some (1, n - 0xC0)
  else if 0xE0 ≤ n && n < 0xF0 then some (2, n - 0xE0)
  else if 0xF0 ≤ n && n < 0xF8 then some (3, n - 0xF0)
  else none

/-- Reads the further bytes of a character and adds their bits. -/
def trailingBytes : (count : Nat) → (bits : Nat) → List Char → Option (Nat × List Char)
  | 0, bits, cs => some (bits, cs)
  | count + 1, bits, cs =>
    match escapedByte cs with
    | some (n, cs) => if 0x80 ≤ n && n < 0xC0 then trailingBytes count (bits * 64 + n - 0x80) cs else none
    | none => none

/-- Undoes the escapes of a tag; a byte sequence that spells no character becomes U+FFFD. -/
def unescapeTag : (fuel : Nat) → List Char → Except Fault (List Char)
  | 0, _ => .ok []
  | _ + 1, [] => .ok []
  | fuel + 1, x :: xs =>
    if x = '%' then do
      let some (n, rest) := escapedByte (x :: xs) | throw .badTag
      let some (count, bits) := leadingByte n | throw .badTag
      let some (bits, rest) := trailingBytes count bits rest | throw .badTag
      let decoded := Char.ofNat bits
      return (if decoded.toNat = bits then decoded else '\ufffd') :: (← unescapeTag fuel rest)
    else do return x :: (← unescapeTag fuel xs)

/-- Scans the characters of a tag behind the `head` that was taken for a handle, whose first
character does not count; together with it they may not be empty. -/
def takeTagText (wide : Bool) (head : List Char) (c : Cursor) : Except Fault (String × Cursor) := do
  let raw := c.rest.takeWhile (isTagChar wide)
  if head = [] && raw = [] then throw .badTag
  let text ← unescapeTag (raw.length + 1) raw
  return (String.ofList (head.drop 1 ++ text), c.skip raw.length)

/-- Scans a tag handle: an exclamation mark, and a word that ends in another one if there is one. -/
def takeHandle (c : Cursor) : Except Fault (List Char × Cursor) :=
  if c.sees '!' then
    let word := (c.rest.drop 1).takeWhile isWordChar
    let c := c.skip (1 + word.length)
    if c.sees '!' then .ok ('!' :: word ++ ['!'], c.skip 1) else .ok ('!' :: word, c)
  else .error .badTag

/-- Scans a tag: its handle, empty for a tag that is complete, and its suffix. -/
def takeTag (inFlow : Bool) (c : Cursor) : Except Fault (Token × Cursor) := do
  let (handle, suffix, c) ←
    if c.rest.drop 1 |>.head? |>.any (· = '<') then do
      let (suffix, c) ← takeTagText true [] (c.skip 2)
      if !c.sees '>' then throw .badTag
      pure ("", suffix, c.skip 1)
    else do
      let (head, c) ← takeHandle c
      if head.length > 1 && head.getLast? = some '!' then
        let (suffix, c) ← takeTagText false [] c
        pure (String.ofList head, suffix, c)
      else
        let (suffix, c) ← takeTagText false head c
        pure (if suffix = "" then ("", "!", c) else ("!", suffix, c))
  if !(inFlow && c.sees ',') && !atBlankOrEnd c.rest then throw .badTag
  return (.tag handle suffix, c)

/-! ## Directives -/

/-- Scans a number of one to nine digits. -/
def takeVersionNumber (c : Cursor) : Except Fault (Nat × Cursor) :=
  let digits := c.rest.takeWhile Char.isDigit
  if digits = [] || digits.length > 9 then .error .badDirective
  else .ok (digits.foldl (fun n x => n * 10 + (x.toNat - 48)) 0, c.skip digits.length)

/-- Scans the two numbers of a version directive. -/
def takeVersion (c : Cursor) : Except Fault (Token × Cursor) := do
  let (major, c) ← takeVersionNumber (c.skipWhile isBlank)
  if !c.sees '.' then throw .badDirective
  let (minor, c) ← takeVersionNumber (c.skip 1)
  return (.version major minor, c)

/-- Scans the handle of a tag directive and what it stands for. -/
def takeTagHandle (c : Cursor) : Except Fault (Token × Cursor) := do
  let (handle, c) ← takeHandle (c.skipWhile isBlank)
  if handle ≠ ['!'] && handle.getLast? ≠ some '!' then throw .badDirective
  if !(c.peek.any isBlank) then throw .badDirective
  let (expansion, c) ← takeTagText true [] (c.skipWhile isBlank)
  if !atBlankOrEnd c.rest then throw .badDirective
  return (.tagHandle (String.ofList handle) expansion, c)

/-- Scans a directive from its percent sign to the end of its line. -/
def takeDirective (c : Cursor) : Except Fault (Token × Cursor) := do
  let c := c.skip 1
  let name := c.rest.takeWhile isWordChar
  let c := c.skip name.length
  if name = [] || !atBlankOrEnd c.rest then throw .badDirective
  let (token, c) ←
    if name = "YAML".toList then takeVersion c
    else if name = "TAG".toList then takeTagHandle c
    else throw .badDirective
  let c := (c.skipWhile isBlank).skipComment
  match c.takeBreak? with
  | some (_, c) => return (token, c)
  | none => if c.rest = [] then return (token, c) else throw .badDirective

end TypedClient.Yaml
