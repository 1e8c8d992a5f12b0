import TypedClient.Json.Numeral

/-!
# Reading JSON

`Json.parse` reads one value that fills the whole text. Each step works on the characters that are
left and returns the rest; `fuel` bounds the number of steps and is computed from the length of the
text, `room` is the number of containers that may still be opened. `skipValue` goes over a value
whose content does not matter: it checks the form only, not ranges, surrogates or depth.
-/

namespace TypedClient.Json

/-- The blanks between the tokens of a document. -/
def isSpace (c : Char) : Bool :=
  c = ' ' || c = '\n' || c = '\t' || c = '\r'

/-- The characters after the blanks. -/
def skipSpace (cs : List Char) : List Char :=
  cs.dropWhile isSpace

/-- The fault of a text whose next character does not fit. -/
def faultAt : List Char → Fault
  | [] => .unexpectedEnd
  | c :: _ => .unexpected c

/-! ## Strings -/

/-- The value of a hexadecimal digit of either case. -/
def hexValue (c : Char) : Option Nat :=
  if '0' ≤ c ∧ c ≤ '9' then some (c.toNat - 48)
  else if 'a' ≤ c ∧ c ≤ 'f' then some (c.toNat - 87)
  else if 'A' ≤ c ∧ c ≤ 'F' then some (c.toNat - 55)
  else none

/-- The value of four hexadecimal digits. -/
def hexValue4 (a b c d : Char) : Option Nat := do
  return (((← hexValue a) * 16 + (← hexValue b)) * 16 + (← hexValue c)) * 16 + (← hexValue d)

/-- The character that a one-letter escape stands for. -/
def simpleEscape (c : Char) : Option Char :=
  if c = '"' then some '"'
  else if c = '\\' then some '\\'
  else if c = '/' then some '/'
  else if c = 'b' then some '\x08'
  else if c = 'f' then some '\x0c'
  else if c = 'n' then some '\n'
  else if c = 'r' then some '\r'
  else if c = 't' then some '\t'
  else none

/-- Whether the number is the first half of a surrogate pair. -/
def isHighSurrogate (n : Nat) : Bool := 0xD800 ≤ n && n ≤ 0xDBFF

/-- Whether the number is the second half of a surrogate pair. -/
def isLowSurrogate (n : Nat) : Bool := 0xDC00 ≤ n && n ≤ 0xDFFF

/-- The character that a surrogate pair stands for. -/
def joinSurrogates (high low : Nat) : Char :=
  Char.ofNat (0x10000 + (high - 0xD800) * 0x400 + (low - 0xDC00))

/-- The characters of a string literal after its opening quote, and the text after the closing one.
An escape by number names a character by its UTF-16 units. -/
def stringBody : List Char → Except Fault (List Char × List Char)
  | [] => .error .unexpectedEnd
  | '"' :: cs => .ok ([], cs)
  | '\\' :: 'u' :: a :: b :: c :: d :: cs =>
    match hexValue4 a b c d with
    | none => .error .badEscape
    | some unit =>
      if isLowSurrogate unit then .error .loneSurrogate
      else if isHighSurrogate unit then
        match cs with
        | '\\' :: 'u' :: e :: f :: g :: h :: rest =>
          match hexValue4 e f g h with
          | none => .error .badEscape
          | some low =>
            if isLowSurrogate low then
              match stringBody rest with
              | .ok (text, rest) => .ok (joinSurrogates unit low :: text, rest)
              | .error fault => .error fault
            else .error .loneSurrogate
        | _ => .error .loneSurrogate
      else
        match stringBody cs with
        | .ok (text, rest) => .ok (Char.ofNat unit :: text, rest)
        | .error fault => .error fault
  | '\\' :: e :: cs =>
    match simpleEscape e with
    | none => .error .badEscape
    | some c =>
      match stringBody cs with
      | .ok (text, rest) => .ok (c :: text, rest)
      | .error fault => .error fault
  | c :: cs =>
    if c.toNat < 0x20 then .error .controlCharacter
    else
      match stringBody cs with
      | .ok (text, rest) => .ok (c :: text, rest)
      | .error fault => .error fault

/-! ## Values -/

/-- The keywords and their values. -/
def keyword : List Char → Option (Json × List Char)
  | 'n' :: 'u' :: 'l' :: 'l' :: cs => some (.null, cs)
  | 't' :: 'r' :: 'u' :: 'e' :: cs => some (.bool true, cs)
  | 'f' :: 'a' :: 'l' :: 's' :: 'e' :: cs => some (.bool false, cs)
  | _ => none

/-- Whether a numeral can start with the character. -/
def startsNumeral (c : Char) : Bool := c = '-' || c.isDigit

/-- The key of an entry and the colon after it. -/
def entryKey (cs : List Char) : Except Fault (String × List Char) :=
  match skipSpace cs with
  | '"' :: cs =>
    match stringBody cs with
    | .error fault => .error fault
    | .ok (key, cs) =>
      match skipSpace cs with
      | ':' :: cs => .ok (String.ofList key, cs)
      | cs => .error (faultAt cs)
  | cs => .error (faultAt cs)

mutual

/-- Reads one value and returns the text after it. -/
def value : (fuel room : Nat) → List Char → Except Fault (Json × List Char)
  | 0, _, _ => .error .unexpectedEnd
  | fuel + 1, room, cs =>
    match skipSpace cs with
    | '"' :: cs =>
      match stringBody cs with
      | .ok (text, cs) => .ok (.string (String.ofList text), cs)
      | .error fault => .error fault
    | '[' :: cs =>
      match room with
      | 0 => .error .tooDeep
      | room + 1 =>
        match skipSpace cs with
        | ']' :: cs => .ok (.array [], cs)
        | cs =>
          match items fuel room cs with
          | .ok (items, cs) => .ok (.array items, cs)
          | .error fault => .error fault
    | '\x7b' :: cs =>
      match room with
      | 0 => .error .tooDeep
      | room + 1 =>
        match skipSpace cs with
        | '\x7d' :: cs => .ok (.object [], cs)
        | cs =>
          match entries fuel room cs with
          | .ok (entries, cs) => .ok (.object (Entries.ofList entries), cs)
          | .error fault => .error fault
    | cs =>
      match keyword cs with
      | some found => .ok found
      | none =>
        if cs.head?.any startsNumeral then
          match takeNumeral cs with
          | .error fault => .error fault
          | .ok (numeral, cs) =>
            match numeral.value with
            | .ok n => .ok (.number n, cs)
            | .error fault => .error fault
        else .error (faultAt cs)

/-- Reads the items of an array from the first one to the closing bracket. -/
def items : (fuel room : Nat) → List Char → Except Fault (List Json × List Char)
  | 0, _, _ => .error .unexpectedEnd
  | fuel + 1, room, cs =>
    match value fuel room cs with
    | .error fault => .error fault
    | .ok (item, cs) =>
      match skipSpace cs with
      | ']' :: cs => .ok ([item], cs)
      | ',' :: cs =>
        match items fuel room cs with
        | .ok (rest, cs) => .ok (item :: rest, cs)
        | .error fault => .error fault
      | cs => .error (faultAt cs)

/-- Reads the entries of an object from the first one to the closing brace. -/
def entries : (fuel room : Nat) → List Char → Except Fault (List (String × Json) × List Char)
  | 0, _, _ => .error .unexpectedEnd
  | fuel + 1, room, cs =>
    match entryKey cs with
    | .error fault => .error fault
    | .ok (key, cs) =>
      match value fuel room cs with
      | .error fault => .error fault
      | .ok (value, cs) =>
        match skipSpace cs with
        | '\x7d' :: cs => .ok ([(key, value)], cs)
        | ',' :: cs =>
          match entries fuel room cs with
          | .ok (rest, cs) => .ok ((key, value) :: rest, cs)
          | .error fault => .error fault
        | cs => .error (faultAt cs)

end

/-- How many containers may lie within one another. -/
def maxDepth : Nat := 127

/-- Reads a document: one value with nothing but blanks around it. -/
def parseChars (cs : List Char) : Except Fault Json :=
  match value (2 * cs.length + 2) maxDepth cs with
  | .error fault => .error fault
  | .ok (value, rest) => if skipSpace rest = [] then .ok value else .error .trailing

/-- Reads a document: one value with nothing but blanks around it. -/
def parse (text : String) : Except Fault Json :=
  parseChars text.toList

/-! ## Going over a value -/

/-- Goes over a string literal after its opening quote. -/
def skipString : List Char → Except Fault (List Char)
  | [] => .error .unexpectedEnd
  | '"' :: cs => .ok cs
  | '\\' :: 'u' :: a :: b :: c :: d :: cs =>
    if (hexValue4 a b c d).isSome then skipString cs else .error .badEscape
  | '\\' :: e :: cs => if (simpleEscape e).isSome then skipString cs else .error .badEscape
  | c :: cs => if c.toNat < 0x20 then .error .controlCharacter else skipString cs

mutual

/-- Goes over one value and returns the text after it. -/
def skipValue : (fuel : Nat) → List Char → Except Fault (List Char)
  | 0, _ => .error .unexpectedEnd
  | fuel + 1, cs =>
    match skipSpace cs with
    | '"' :: cs => skipString cs
    | '[' :: cs =>
      match skipSpace cs with
      | ']' :: cs => .ok cs
      | cs => skipItems fuel cs
    | '\x7b' :: cs =>
      match skipSpace cs with
      | '\x7d' :: cs => .ok cs
      | cs => skipEntries fuel cs
    | cs =>
      match keyword cs with
      | some (_, cs) => .ok cs
      | none =>
        if cs.head?.any startsNumeral then (takeNumeral cs).map Prod.snd else .error (faultAt cs)

/-- Goes over the items of an array up to its closing bracket. -/
def skipItems : (fuel : Nat) → List Char → Except Fault (List Char)
  | 0, _ => .error .unexpectedEnd
  | fuel + 1, cs =>
    match skipValue fuel cs with
    | .error fault => .error fault
    | .ok cs =>
      match skipSpace cs with
      | ']' :: cs => .ok cs
      | ',' :: cs => skipItems fuel cs
      | cs => .error (faultAt cs)

/-- Goes over the entries of an object up to its closing brace. -/
def skipEntries : (fuel : Nat) → List Char → Except Fault (List Char)
  | 0, _ => .error .unexpectedEnd
  | fuel + 1, cs =>
    match skipSpace cs with
    | '"' :: cs =>
      match skipString cs with
      | .error fault => .error fault
      | .ok cs =>
        match skipSpace cs with
        | ':' :: cs =>
          match skipValue fuel cs with
          | .error fault => .error fault
          | .ok cs =>
            match skipSpace cs with
            | '\x7d' :: cs => .ok cs
            | ',' :: cs => skipEntries fuel cs
            | cs => .error (faultAt cs)
        | cs => .error (faultAt cs)
    | cs => .error (faultAt cs)

end

end TypedClient.Json
