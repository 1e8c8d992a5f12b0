import TypedClient.Yaml.Token

/-!
# Scanning YAML scalars

Each scanner starts at the first character of a scalar and returns its content with the cursor
behind it. Content is collected in reverse. The loops take one character or more in every step, so
the length of the text bounds their number.
-/

namespace TypedClient.Yaml

/-! ## Blanks inside a scalar -/

/-- Takes the blanks and breaks between two words. A plain scalar in a block passes the column
before which no tab may stand after a break. -/
def takeGap (tabLimit : Nat) : (fuel : Nat) → Cursor → Gap → Except Fault (Gap × Cursor)
  | 0, c, gap => .ok (gap, c)
  | fuel + 1, c, gap =>
    match c.takeBreak? with
    | some (b, c) => takeGap tabLimit fuel c (gap.addBreak b)
    | none =>
      match c.peek with
      | some x =>
        if isBlank x then
          if gap.isBroken && c.column < tabLimit && x = '\t' then .error .tabIndentation
          else takeGap tabLimit fuel (c.skip 1) (gap.addBlank x)
        else .ok (gap, c)
      | none => .ok (gap, c)

/-! ## Quoted scalars -/

/-- The value of a hexadecimal digit. -/
def hexDigitValue (c : Char) : Option Nat :=
  if c.isDigit then some (c.toNat - 48)
  else if 'a' ≤ c ∧ c ≤ 'f' then some (c.toNat - 87)
  else if 'A' ≤ c ∧ c ≤ 'F' then some (c.toNat - 55)
  else none

/-- The value of a row of hexadecimal digits. -/
def hexDigitsValue (cs : List Char) : Option Nat :=
  cs.foldl (fun n c => do return (← n) * 16 + (← hexDigitValue c)) (some 0)

/-- The character that a one-letter escape stands for. -/
def letterEscape : Char → Option Char
  | '0' => some '\x00'
  | 'a' => some '\x07'
  | 'b' => some '\x08'
  | 't' => some '\t'
  | '\t' => some '\t'
  | 'n' => some '\n'
  | 'v' => some '\x0b'
  | 'f' => some '\x0c'
  | 'r' => some '\r'
  | 'e' => some '\x1b'
  | ' ' => some ' '
  | '"' => some '"'
  | '/' => some '/'
  | '\\' => some '\\'
  | 'N' => some '\u0085'
  | '_' => some '\u00a0'
  | 'L' => some '\u2028'
  | 'P' => some '\u2029'
  | _ => none

/-- How many hexadecimal digits follow the letter of an escape by number. -/
def numberEscape : Char → Option Nat
  | 'x' => some 2
  | 'u' => some 4
  | 'U' => some 8
  | _ => none

/-- Reads the escape behind a backslash: its character and the cursor after it. -/
def takeEscape (c : Cursor) : Except Fault (Char × Cursor) :=
  match c.peek with
  | none => .error .badEscape
  | some letter =>
    match letterEscape letter with
    | some x => .ok (x, c.skip 1)
    | none =>
      match numberEscape letter with
      | none => .error .badEscape
      | some count =>
        let digits := (c.rest.drop 1).take count
        match hexDigitsValue digits with
        | none => .error .badEscape
        | some n =>
          if digits.length < count then .error .badEscape
          else if (0xD800 ≤ n && n ≤ 0xDFFF) || n > 0x10FFFF then .error .badEscape
          else .ok (Char.ofNat n, c.skip (1 + count))

/-- Scans the inside of a quoted scalar up to its closing quote; `out` is what came so far, in
reverse. -/
def quotedBody (single : Bool) : (fuel : Nat) → Cursor → List Char → Except Fault (List Char × Cursor)
  | 0, _, _ => .error .unclosedScalar
  | fuel + 1, c, out =>
    match c.rest with
    | [] => .error .unclosedScalar
    | x :: rest =>
      if c.atDocumentMarker then .error .markerInScalar
      else if isBlank x || isBreak x then
        match takeGap 0 (c.rest.length + 1) c .none with
        | .error fault => .error fault
        | .ok (gap, c) => quotedBody single fuel c (gap.text.reverse ++ out)
      else if single && x = '\'' then
        match rest with
        | '\'' :: _ => quotedBody single fuel (c.skip 2) ('\'' :: out)
        | _ => .ok (out.reverse, c.skip 1)
      else if !single && x = '"' then .ok (out.reverse, c.skip 1)
      else if !single && x = '\\' then
        match (c.skip 1).takeBreak? with
        | some (_, c) =>
          match takeGap 0 (c.rest.length + 1) c (.breaks none []) with
          | .error fault => .error fault
          | .ok (gap, c) => quotedBody single fuel c (gap.text.reverse ++ out)
        | none =>
          match takeEscape (c.skip 1) with
          | .error fault => .error fault
          | .ok (y, c) => quotedBody single fuel c (y :: out)
      else quotedBody single fuel (c.skip 1) (x :: out)

/-- Scans a quoted scalar from its opening quote. -/
def takeQuoted (single : Bool) (c : Cursor) : Except Fault (Token × Cursor) :=
  match quotedBody single (c.rest.length + 1) (c.skip 1) [] with
  | .error fault => .error fault
  | .ok (text, c) =>
    .ok (.scalar (if single then .singleQuoted else .doubleQuoted) (String.ofList text), c)

/-! ## Plain scalars -/

/-- The characters that end a word of a plain scalar inside a flow collection. -/
def isFlowIndicator (c : Char) : Bool :=
  c = ',' || c = '[' || c = ']' || c = '\x7b' || c = '\x7d'

/-- Scans the words of a plain scalar. `out` is the content up to the end of the last word, in
reverse, and `gap` what followed it; the result tells whether a break followed the last word. -/
def plainBody (inFlow : Bool) (indent : Nat) :
    (fuel : Nat) → Cursor → List Char → Gap → Except Fault (List Char × Cursor × Bool)
  | 0, c, out, gap => .ok (out, c, gap.isBroken)
  | fuel + 1, c, out, gap =>
    match c.rest with
    | [] => .ok (out, c, gap.isBroken)
    | x :: rest =>
      if isBlank x || isBreak x then
        match takeGap indent (c.rest.length + 1) c .none with
        | .error fault => .error fault
        | .ok (gap, c) =>
          if (!inFlow && c.column < indent) || c.atDocumentMarker || c.sees '#' then
            .ok (out, c, gap.isBroken)
          else plainBody inFlow indent fuel c out gap
      else if inFlow && x = ':' && rest.head?.any (fun y => isFlowIndicator y || y = '?') then
        .error .unexpectedColon
      else if (x = ':' && atBlankOrEnd rest) || (inFlow && isFlowIndicator x) then
        .ok (out, c, gap.isBroken)
      else plainBody inFlow indent fuel (c.skip 1) (x :: (gap.text.reverse ++ out)) .none

/-- Scans a plain scalar; the result tells whether it was followed by a break. -/
def takePlain (inFlow : Bool) (indent : Nat) (c : Cursor) : Except Fault (Token × Cursor × Bool) :=
  match plainBody inFlow indent (c.rest.length + 1) c [] .none with
  | .error fault => .error fault
  | .ok (out, c, broken) => .ok (.scalar .plain (String.ofList out.reverse), c, broken)

/-! ## Block scalars -/

/-- What happens to the line breaks at the end of a block scalar. -/
inductive Chomping
  | clip
  | strip
  | keep
deriving DecidableEq

/-- The chomping that an indicator asks for. -/
def Chomping.ofIndicator? : Char → Option Chomping
  | '+' => some .keep
  | '-' => some .strip
  | _ => none

/-- Reads a chomping indicator, if one comes next. -/
def takeChomping (c : Cursor) : Option Chomping × Cursor :=
  match c.peek.bind Chomping.ofIndicator? with
  | some chomping => (some chomping, c.skip 1)
  | none => (none, c)

/-- Reads an indentation indicator, if one comes next; zero is refused. -/
def takeIncrement (c : Cursor) : Except Fault (Option Nat × Cursor) :=
  match c.peek with
  | some x =>
    if x.isDigit then
      if x = '0' then .error .badBlockHeader else .ok (some (x.toNat - 48), c.skip 1)
    else .ok (none, c)
  | none => .ok (none, c)

/-- Reads the header of a block scalar after its indicator, up to the end of the line. -/
def takeBlockHeader (c : Cursor) : Except Fault (Chomping × Option Nat × Cursor) := do
  let (first, c) := takeChomping c
  let (increment, c) ← takeIncrement c
  let (chomping, c) := match first with
    | some chomping => (chomping, c)
    | none =>
      if increment.isSome then
        let (second, c) := takeChomping c
        (second.getD .clip, c)
      else (.clip, c)
  let c := (c.skipWhile isBlank).skipComment
  match c.takeBreak? with
  | some (_, c) => return (chomping, increment, c)
  | none => if c.rest = [] then return (chomping, increment, c) else throw .badBlockHeader

/-- Goes over the indentation and the empty lines before a line of a block scalar: the breaks, the
widest indentation, and the cursor. Without a known indentation all leading blanks count. -/
def takeBlockBreaks (indent : Option Nat) :
    (fuel : Nat) → Cursor → List Char → Nat → Except Fault (List Char × Nat × Cursor)
  | 0, c, breaks, widest => .ok (breaks, widest, c)
  | fuel + 1, c, breaks, widest =>
    let spaces := (c.rest.takeWhile (· = ' ')).length
    let c := c.skip (match indent with
      | some n => min spaces (n - c.column)
      | none => spaces)
    let widest := max widest c.column
    let inside := match indent with
      | some n => c.column < n
      | none => true
    if inside && c.sees '\t' then .error .tabIndentation
    else
      match c.takeBreak? with
      | some (b, c) => takeBlockBreaks indent fuel c (breaks ++ [b]) widest
      | none => .ok (breaks, widest, c)

/-- Scans the lines of a block scalar with known indentation. `lead` is the break that ended the
line before, `breaks` those of the empty lines after it, `blankLead` whether that line started with
a blank. -/
def blockLines (folded : Bool) (indent : Nat) : (fuel : Nat) → Cursor → (out : List Char) →
    (lead : Option Char) → (breaks : List Char) → (blankLead : Bool) →
    Except Fault (List Char × Option Char × List Char × Cursor)
  | 0, c, out, lead, breaks, _ => .ok (out, lead, breaks, c)
  | fuel + 1, c, out, lead, breaks, blankLead =>
    match c.rest with
    | [] => .ok (out, lead, breaks, c)
    | x :: _ =>
      if c.column ≠ indent then .ok (out, lead, breaks, c)
      else
        let blank := isBlank x
        let joined :=
          if folded && lead = some '\n' && !blankLead && !blank then
            if breaks = [] then [' '] else breaks
          else lead.toList ++ breaks
        let line := c.rest.takeWhile (fun y => !isBreak y)
        let c := c.skip line.length
        let out := line.reverse ++ (joined.reverse ++ out)
        let (lead, c) := match c.takeBreak? with
          | some (b, c) => (some b, c)
          | none => (none, c)
        match takeBlockBreaks (some indent) (c.rest.length + 1) c [] 0 with
        | .error fault => .error fault
        | .ok (breaks, _, c) => blockLines folded indent fuel c out lead breaks blank

/-- Scans a block scalar from its indicator. `parent` is the indentation of the block around it, or
-1 outside all blocks. -/
def takeBlock (folded : Bool) (parent : Int) (c : Cursor) : Except Fault (Token × Cursor) := do
  let (chomping, increment, c) ← takeBlockHeader (c.skip 1)
  let known := increment.map fun n => (max parent 0).toNat + n
  let (breaks, widest, c) ← takeBlockBreaks known (c.rest.length + 1) c [] 0
  let indent := known.getD (max widest (max (parent + 1).toNat 1))
  let (out, lead, breaks, c) ← blockLines folded indent (c.rest.length + 1) c [] none breaks false
  let tail := match chomping with
    | .strip => []
    | .clip => lead.toList
    | .keep => lead.toList ++ breaks
  return (.scalar (if folded then .folded else .literal) (String.ofList (out.reverse ++ tail)), c)

end TypedClient.Yaml
