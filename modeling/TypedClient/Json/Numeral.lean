import TypedClient.Json.Basic

/-!
# Reading JSON numbers

A number in integer form that fits 64 bits, signed or unsigned, is kept exactly. Any other number is
floating point and is computed in two roundings: a significand of leading digits, as many as fit 64
unsigned bits, is rounded to a floating-point number, which is then multiplied or divided by a
rounded power of ten. Results beyond the finite numbers are refused; results too small become zero.
-/

namespace TypedClient.Json

open TypedClient.Number (Binary64 tenTo twoTo)

/-- Why a text is not a JSON document. -/
inductive Fault
  /-- The text ends inside a value. -/
  | unexpectedEnd
  /-- A character that cannot stand where it stands. -/
  | unexpected (c : Char)
  /-- A number without a digit where one is needed, or with a leading zero. -/
  | badNumber
  /-- A number beyond the finite floating-point numbers. -/
  | numberOutOfRange
  /-- A control character inside a string literal. -/
  | controlCharacter
  /-- An escape that is none of the known ones. -/
  | badEscape
  /-- One half of a surrogate pair without the other. -/
  | loneSurrogate
  /-- More containers within one another than the reader allows. -/
  | tooDeep
  /-- Further characters after the value. -/
  | trailing
  /-- A value of another shape than the record that is read. -/
  | wrongShape
  /-- A record without one of its fields. -/
  | missingField (name : String)
  /-- A record with one of its fields twice. -/
  | repeatedField (name : String)
deriving DecidableEq

/-- What is wrong with the text, in words. -/
def Fault.message : Fault → String
  | .unexpectedEnd => "unexpected end of the text"
  | .unexpected c => "unexpected character " ++ String.singleton c
  | .badNumber => "invalid number"
  | .numberOutOfRange => "number out of range"
  | .controlCharacter => "control character in a string"
  | .badEscape => "invalid escape"
  | .loneSurrogate => "half of a surrogate pair"
  | .tooDeep => "nested too deeply"
  | .trailing => "further characters after the value"
  | .wrongShape => "value of an unexpected type"
  | .missingField name => "missing field " ++ name
  | .repeatedField name => "field given twice: " ++ name

/-! ## The parts of a numeral -/

/-- The value of a decimal digit. -/
def digitValue (c : Char) : Nat := c.toNat - 48

/-- The value of a row of decimal digits. -/
def digitsValue (cs : List Char) : Nat :=
  cs.foldl (fun n c => n * 10 + digitValue c) 0

/-- A numeral cut into its parts. -/
structure Numeral where
  negative : Bool
  /-- The digits before the point. -/
  whole : List Char
  /-- The digits after the point, if there is one. -/
  fraction : Option (List Char)
  /-- Whether the exponent has a minus sign, and its digits. -/
  exponent : Option (Bool × List Char)

/-- The largest unsigned integer of 64 bits. -/
def maxUnsigned : Nat := twoTo 64 - 1

/-- The largest exponent whose digits are read as a number. -/
def maxExponent : Nat := twoTo 31 - 1

/-! ## The value of a numeral -/

/-- Appends digits to a significand while it fits 64 unsigned bits; the digits left over remain. -/
def appendDigits (significand : Nat) : List Char → Nat × List Char
  | [] => (significand, [])
  | c :: cs =>
    let next := significand * 10 + digitValue c
    if next ≤ maxUnsigned then appendDigits next cs else (significand, c :: cs)

/-- The floating-point number nearest to a power of ten with an exponent from 0 to 308. -/
def powerOfTen (n : Nat) : Binary64 :=
  (Binary64.nearest false (tenTo n) 1).getD (.zero false)

/-- Divides by a power of ten; what lies beyond the finite numbers does not arise here. -/
def divideByPower (x : Binary64) (n : Nat) : Binary64 :=
  (x.div (powerOfTen n)).getD x

/-- The product of a significand, rounded to a floating-point number, and a power of ten. -/
def scale (significand : Nat) (exponent : Int) : Except Fault Binary64 :=
  let x := (Binary64.nearest false significand 1).getD (.zero false)
  if x.isZero then .ok x
  else if exponent > 308 then .error .numberOutOfRange
  else if 0 ≤ exponent then
    match x.mul (powerOfTen exponent.toNat) with
    | some y => .ok y
    | none => .error .numberOutOfRange
  else if -308 ≤ exponent then .ok (divideByPower x (-exponent).toNat)
  else if -616 ≤ exponent then
    .ok (divideByPower (divideByPower x 308) (-exponent - 308).toNat)
  else .ok (.zero false)

/-- The value of a numeral that has a point, an exponent, or too many digits for an integer. -/
def Numeral.real (n : Numeral) : Except Fault Json.Number := do
  let (significand, dropped) := appendDigits 0 n.whole
  let (significand, places) :=
    match n.fraction with
    | none => (significand, 0)
    | some digits =>
      let (extended, rest) := appendDigits significand digits
      (extended, digits.length - rest.length)
  let start : Int := (dropped.length : Int) - (places : Int)
  let sign (x : Binary64) : Json.Number := .real (if n.negative then x.neg else x)
  match n.exponent with
  | none => return sign (← scale significand start)
  | some (minus, digits) =>
    let shift := digitsValue digits
    if shift > maxExponent then
      if significand ≠ 0 && !minus then throw .numberOutOfRange else return sign (.zero false)
    else return sign (← scale significand (if minus then start - shift else start + shift))

/-- The value of a numeral. An integer is kept when it fits 64 bits; minus zero is floating point. -/
def Numeral.value (n : Numeral) : Except Fault Json.Number :=
  match n.fraction, n.exponent with
  | none, none =>
    let whole := digitsValue n.whole
    if !n.negative && whole ≤ maxUnsigned then .ok (.int whole)
    else if n.negative && 0 < whole && whole ≤ twoTo 63 then .ok (.int (-(whole : Int)))
    else n.real
  | _, _ => n.real

/-! ## Cutting a numeral off a text -/

/-- The digits at the start of a text, and the rest. -/
def takeDigits (cs : List Char) : List Char × List Char :=
  (cs.takeWhile Char.isDigit, cs.dropWhile Char.isDigit)

/-- Reads the point and the digits after it, if a point comes next. -/
def takeFraction : List Char → Except Fault (Option (List Char) × List Char)
  | '.' :: cs =>
    match takeDigits cs with
    | ([], _) => .error .badNumber
    | (digits, rest) => .ok (some digits, rest)
  | cs => .ok (none, cs)

/-- Reads the sign of an exponent: whether it is a minus, and the rest. -/
def takeSign : List Char → Bool × List Char
  | '-' :: cs => (true, cs)
  | '+' :: cs => (false, cs)
  | cs => (false, cs)

/-- Reads an exponent, if its mark comes next. -/
def takeExponent : List Char → Except Fault (Option (Bool × List Char) × List Char)
  | c :: cs =>
    if c = 'e' ∨ c = 'E' then
      let (minus, cs) := takeSign cs
      match takeDigits cs with
      | ([], _) => .error .badNumber
      | (digits, rest) => .ok (some (minus, digits), rest)
    else .ok (none, c :: cs)
  | [] => .ok (none, [])

/-- Cuts a numeral off the start of a text: no plus sign, and no digit after a leading zero. -/
def takeNumeral (cs : List Char) : Except Fault (Numeral × List Char) := do
  let (negative, cs) := match cs with
    | '-' :: cs => (true, cs)
    | cs => (false, cs)
  let (whole, cs) := takeDigits cs
  if whole = [] then throw .badNumber
  if whole.head? = some '0' && whole.length > 1 then throw .badNumber
  let (fraction, cs) ← takeFraction cs
  let (exponent, cs) ← takeExponent cs
  return (⟨negative, whole, fraction, exponent⟩, cs)

end TypedClient.Json
