import TypedClient.Yaml.Value

/-!
# How a scalar is written

A string is written plain where that reads back as the same string, else in single quotes, and in
double quotes if it holds characters that only escapes can write; a string with a line feed becomes
a literal block where a block can hold it. The decision rests on a `Survey` of the characters.
-/

namespace TypedClient.Yaml

/-! ## Characters -/

/-- The characters that need no escape: the other control characters, U+FEFF and everything beyond
the basic plane do. -/
def isPrintable (c : Char) : Bool :=
  let n := c.toNat
  n == 0x0A || (0x20 ≤ n && n ≤ 0x7E) || (0xA0 ≤ n && n ≤ 0xD7FF) ||
  (0xE000 ≤ n && n ≤ 0xFFFD && n != 0xFEFF)

/-- Whether a blank, a break, the character NUL or the end comes first. -/
def followedByBlank : List Char → Bool
  | [] => true
  | c :: _ => isBlank c || isBreak c || c == '\x00'

/-- Characters that mean something at the start of a scalar. -/
def startIndicators : List Char :=
  ['#', ',', '[', ']', '\x7b', '\x7d', '&', '*', '!', '|', '>', '\'', '"', '%', '@', '\x60']

/-! ## Surveys -/

/-- What the choice of a form depends on. -/
structure Survey where
  empty : Bool
  multiline : Bool
  plainAllowed : Bool
  singleAllowed : Bool
  blockAllowed : Bool

/-- Whether two neighbours satisfy `p` and `q` in this order. -/
def hasPair (p q : Char → Bool) : List Char → Bool
  | x :: y :: rest => (p x && q y) || hasPair p q (y :: rest)
  | _ => false

/-- Whether some character behind the first one would end a plain scalar: a colon before a blank or
a number sign after one. -/
def hasInnerIndicator : List Char → Bool
  | x :: y :: rest =>
    (y == ':' && followedByBlank rest) || (y == '#' && followedByBlank [x]) ||
      hasInnerIndicator (y :: rest)
  | _ => false

/-- Whether the beginning of a text keeps it from being plain. -/
def startsLikeIndicator (cs : List Char) : Bool :=
  cs.take 3 == ['-', '-', '-'] || cs.take 3 == ['.', '.', '.'] ||
  match cs with
  | [] => false
  | c :: rest =>
    startIndicators.contains c || ((c == '?' || c == ':' || c == '-') && followedByBlank rest)

/-- Surveys the characters of a scalar. -/
def Survey.ofChars (cs : List Char) : Survey :=
  if cs = [] then ⟨true, false, true, true, false⟩
  else
    let isSpace (c : Char) : Bool := c == ' '
    let edge (p : Char → Bool) : Bool := cs.head?.any p || cs.getLast?.any p
    let special := !cs.all isPrintable || hasPair isSpace isBreak cs
    let breakSpace := hasPair isBreak isSpace cs
    let multiline := cs.any isBreak
    { empty := false
      multiline := multiline
      plainAllowed := !(edge isSpace || edge isBreak || breakSpace || special || multiline ||
        startsLikeIndicator cs || hasInnerIndicator cs)
      singleAllowed := !(breakSpace || special)
      blockAllowed := !(cs.getLast?.any isSpace || special) }

/-! ## Forms -/

/-- The form that is asked for before the characters are looked at. -/
def preferredStyle (s : String) : Style :=
  if s.toList.contains '\n' then .literal
  else
    match Meaning.ofPlain s with
    | .ok .text => if hasLeadingZero s.toList then .singleQuoted else .plain
    | .ok _ => .singleQuoted
    | .error _ => .singleQuoted

/-- The form that the characters allow; a simple key stays on its line. -/
def Survey.style (survey : Survey) (preferred : Style) (simpleKey : Bool) : Style :=
  let style := if simpleKey && survey.multiline then .doubleQuoted else preferred
  let style :=
    if style = .plain && (!survey.plainAllowed || (survey.empty && simpleKey)) then .singleQuoted
    else style
  let style := if style = .singleQuoted && !survey.singleAllowed then .doubleQuoted else style
  if style = .literal && (!survey.blockAllowed || simpleKey) then .doubleQuoted else style

/-! ## Escapes -/

/-- A hexadecimal digit in upper case. -/
def upperHexDigit (n : Nat) : Char :=
  if n < 10 then Char.ofNat (48 + n) else Char.ofNat (55 + n)

/-- A number in so many hexadecimal digits. -/
def upperHex (digits n : Nat) : List Char :=
  (List.range digits).map fun i => upperHexDigit ((n >>> (4 * (digits - 1 - i))) % 16)

/-- What double quotes hold for one character. -/
def escapeChar (c : Char) : List Char :=
  if isPrintable c && !isBreak c && c ≠ '"' && c ≠ '\\' then [c]
  else
    let n := c.toNat
    if n = 0x00 then ['\\', '0']
    else if n = 0x07 then ['\\', 'a']
    else if n = 0x08 then ['\\', 'b']
    else if n = 0x09 then ['\\', 't']
    else if n = 0x0A then ['\\', 'n']
    else if n = 0x0B then ['\\', 'v']
    else if n = 0x0C then ['\\', 'f']
    else if n = 0x0D then ['\\', 'r']
    else if n = 0x1B then ['\\', 'e']
    else if n = 0x22 then ['\\', '"']
    else if n = 0x5C then ['\\', '\\']
    else if n = 0x85 then ['\\', 'N']
    else if n = 0xA0 then ['\\', '_']
    else if n = 0x2028 then ['\\', 'L']
    else if n = 0x2029 then ['\\', 'P']
    else if n ≤ 0xFF then '\\' :: 'x' :: upperHex 2 n
    else if n ≤ 0xFFFF then '\\' :: 'u' :: upperHex 4 n
    else '\\' :: 'U' :: upperHex 8 n

/-- Whether a character of a tag is written as it is. -/
def isPlainTagChar (c : Char) : Bool :=
  isWordChar c || [';', '/', '?', ':', '@', '&', '=', '+', '$', ',', '.', '~', '*', '\'', '(', ')',
    '[', ']'].contains c

/-- The name of a local tag as it is written: other characters by the numbers of their bytes. -/
def escapeTag (s : String) : List Char :=
  s.toList.flatMap fun c =>
    if isPlainTagChar c then [c]
    else (String.singleton c).toUTF8.toList.flatMap fun b => '%' :: upperHex 2 b.toNat

end TypedClient.Yaml
