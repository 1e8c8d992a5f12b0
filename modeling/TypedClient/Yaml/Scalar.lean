import TypedClient.Yaml.Token
import TypedClient.Number.Shortest

/-!
# What plain YAML scalars mean

A plain scalar is null, a truth value, a number or, if it is none of these, a string. Integers are
decimal, hexadecimal, octal or binary with an optional sign; decimal digits behind a leading zero
make a string. Floating-point numbers have a point or an exponent, or are infinite or undefined.
-/

namespace TypedClient.Yaml

open TypedClient.Number (Binary64 twoTo)

/-- A number of a document. -/
inductive Number
  | int (value : Int)
  | real (value : Binary64)
  | infinite (negative : Bool)
  | undefined

/-- Larger exponents are written after `e` without a plus sign. -/
def numberLayout : TypedClient.Number.Layout := ⟨-5, 15, ""⟩

/-- The text of a number. -/
def Number.text : Yaml.Number → String
  | .int n => toString n
  | .real x => x.render numberLayout
  | .infinite true => "-.inf"
  | .infinite false => ".inf"
  | .undefined => ".nan"

/-- Equality of numbers as keys: kinds do not mix, and the two zeros are one key. -/
def Number.same : Yaml.Number → Yaml.Number → Bool
  | .int m, .int n => m == n
  | .real x, .real y => x.sameValue y
  | .infinite a, .infinite b => a == b
  | .undefined, .undefined => true
  | _, _ => false

/-! ## Words -/

/-- Whether the text is a spelling of null. -/
def isNull (s : String) : Bool := s == "null" || s == "Null" || s == "NULL" || s == "~"

/-- The truth value that the text spells. -/
def truth? (s : String) : Option Bool :=
  if s = "true" ∨ s = "True" ∨ s = "TRUE" then some true
  else if s = "false" ∨ s = "False" ∨ s = "FALSE" then some false
  else none

/-! ## Integers -/

/-- The value of a digit under a base of at most sixteen. -/
def digitIn (base : Nat) (c : Char) : Option Nat :=
  let n :=
    if c.isDigit then some (c.toNat - 48)
    else if 'a' ≤ c ∧ c ≤ 'f' then some (c.toNat - 87)
    else if 'A' ≤ c ∧ c ≤ 'F' then some (c.toNat - 55)
    else none
  n.filter (· < base)

/-- The value of a row of at least one digit. -/
def digitsIn (base : Nat) (cs : List Char) : Option Nat :=
  if cs = [] then none
  else cs.foldl (fun n c => do return (← n) * base + (← digitIn base c)) (some 0)

/-- The sign in front of a text, minus being `true`, and the rest. -/
def takeNumberSign : List Char → Option Bool × List Char
  | '+' :: cs => (some false, cs)
  | '-' :: cs => (some true, cs)
  | cs => (none, cs)

/-- Whether a text is decimal digits behind a leading zero, and so no number. -/
def hasLeadingZero (cs : List Char) : Bool :=
  let (_, digits) := takeNumberSign cs
  digits.length > 1 && digits.head? == some '0' && digits.all Char.isDigit

/-- The integer that a text spells. -/
def integer? (cs : List Char) : Option Int := do
  let (sign, digits) := takeNumberSign cs
  let magnitude ← match digits with
    | '0' :: 'x' :: rest => digitsIn 16 rest
    | '0' :: 'o' :: rest => digitsIn 8 rest
    | '0' :: 'b' :: rest => digitsIn 2 rest
    | _ => if hasLeadingZero cs then none else digitsIn 10 digits
  return if sign = some true then -(magnitude : Int) else magnitude

/-- What an integer amounts to: one of 64 bits is kept, a larger one of 128 bits is refused, and a
still larger one does not count as an integer. -/
inductive Magnitude
  | kept
  | refused
  | beyond

/-- Sorts an integer by its size. -/
def magnitude (n : Int) : Magnitude :=
  if -(twoTo 63 : Int) ≤ n && n < twoTo 64 then .kept
  else if -(twoTo 127 : Int) ≤ n && n < twoTo 128 then .refused
  else .beyond

/-! ## Floating-point numbers -/

/-- The finite number that a text spells, with digits around an optional point and an exponent. -/
def finite? (cs : List Char) : Option Binary64 := do
  let (sign, cs) := takeNumberSign cs
  let whole := cs.takeWhile Char.isDigit
  let cs := cs.dropWhile Char.isDigit
  let (fraction, cs) := match cs with
    | '.' :: rest => (rest.takeWhile Char.isDigit, rest.dropWhile Char.isDigit)
    | _ => ([], cs)
  let coefficient ← digitsIn 10 (whole ++ fraction)
  let exponent : Int ← match cs with
    | [] => some 0
    | mark :: rest =>
      if mark = 'e' ∨ mark = 'E' then do
        let (minus, digits) := takeNumberSign rest
        let n ← digitsIn 10 digits
        pure (if minus = some true then -(n : Int) else n)
      else none
  Binary64.ofDecimal (sign = some true) coefficient (exponent - fraction.length)

/-- The floating-point number that a text spells. -/
def real? (s : String) : Option Yaml.Number :=
  if s = ".inf" ∨ s = ".Inf" ∨ s = ".INF" ∨ s = "+.inf" ∨ s = "+.Inf" ∨ s = "+.INF" then
    some (.infinite false)
  else if s = "-.inf" ∨ s = "-.Inf" ∨ s = "-.INF" then some (.infinite true)
  else if s = ".nan" ∨ s = ".NaN" ∨ s = ".NAN" then some .undefined
  else (finite? s.toList).map .real

/-! ## Plain scalars -/

/-- What a plain scalar means. -/
inductive Meaning
  | null
  | truth (value : Bool)
  | number (value : Yaml.Number)
  | text

/-- The integer that a text spells, refused if it has more than 64 bits but at most 128. -/
def integerMeaning (s : String) : Except Fault (Option Int) :=
  match integer? s.toList with
  | some n =>
    match magnitude n with
    | .kept => .ok (some n)
    | .refused => .error .wrongType
    | .beyond => .ok none
  | none => .ok none

/-- The meaning of a plain scalar. -/
def Meaning.ofPlain (s : String) : Except Fault Meaning := do
  if s = "" || isNull s then return .null
  if let some b := truth? s then return .truth b
  if let some n ← integerMeaning s then return .number (.int n)
  if hasLeadingZero s.toList then return .text
  match real? s with
  | some x => return .number x
  | none => return .text

end TypedClient.Yaml
