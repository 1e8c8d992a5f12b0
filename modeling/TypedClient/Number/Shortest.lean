import TypedClient.Number.Binary64

/-!
# The shortest decimal of a floating-point number

A number is written with the fewest decimal digits that still round to it. The reals that round to
a number form an interval around it, so the search goes through ever finer decimal grids and takes
the first one that has a point inside; of two such points it takes the one nearer to the number.
Where the digits go once they are found is a `Layout`.
-/

namespace TypedClient.Number

/-- The number `coefficient · 10 ^ exponent`. -/
structure Decimal where
  coefficient : Nat
  exponent : Int

/-- Moves factors of ten from the coefficient into the exponent, at most `fuel` of them. -/
def Decimal.stripZeros : Nat → Decimal → Decimal
  | 0, d => d
  | fuel + 1, d =>
    if d.coefficient % 10 = 0 && d.coefficient ≠ 0 then
      stripZeros fuel ⟨d.coefficient / 10, d.exponent + 1⟩
    else d

/-- The exponent `e` with `10 ^ e ≤ num / den < 10 ^ (e + 1)`, for positive operands. -/
def decimalOrder (num den : Nat) : Int :=
  if den ≤ num then ((num / den).repr.length : Int) - 1
  else
    let up := den / num
    let guess := up.repr.length
    if den ≤ num * tenTo (guess - 1) then -((guess - 1 : Nat) : Int) else -(guess : Int)

namespace Binary64

/-- The reals that round to a positive number, scaled so that all bounds are integers: the value,
the lower and the upper bound over a common denominator, and whether the bounds belong to it. -/
structure Interval where
  value : Nat
  low : Nat
  high : Nat
  den : Nat
  closed : Bool

/-- The interval of the reals that round to the magnitude of `x`. The gap below a power of two is
half as wide as the one above it. -/
def interval (x : Binary64) : Interval :=
  let scale := x.exponent - 2
  let (up, den) := if 0 ≤ scale then (twoTo scale.toNat, 1) else (1, twoTo (-scale).toNat)
  let below := if x.mantissa = twoTo 52 && x.exponent > lowestExponent then 1 else 2
  { value := 4 * x.mantissa * up
    low := (4 * x.mantissa - below) * up
    high := (4 * x.mantissa + 2) * up
    den := den
    closed := x.mantissa % 2 == 0 }

/-- The point of the grid of the multiples of `10 ^ place` that lies in the interval and nearest to
its value, if there is one. -/
def Interval.gridPoint (i : Interval) (place : Int) : Option Decimal :=
  let (unit, scale) := if 0 ≤ place then (tenTo place.toNat, 1) else (1, tenTo (-place).toNat)
  let step := unit * i.den
  let value := i.value * scale
  let inside (n : Nat) : Bool :=
    let p := n * step
    if i.closed then i.low * scale ≤ p && p ≤ i.high * scale
    else i.low * scale < p && p < i.high * scale
  let down := value / step
  let up := down + 1
  match inside down && down != 0, inside up with
  | true, true =>
    let toDown := value - down * step
    let toUp := up * step - value
    if toUp < toDown || (toUp == toDown && up % 2 == 0) then some ⟨up, place⟩ else some ⟨down, place⟩
  | true, false => some ⟨down, place⟩
  | false, true => some ⟨up, place⟩
  | false, false => none

/-- The decimal with the fewest digits that rounds to the magnitude of `x`; zero is `0 · 10 ^ 0`. -/
def shortest (x : Binary64) : Decimal :=
  if x.isZero then ⟨0, 0⟩
  else
    let i := x.interval
    let order := decimalOrder i.value i.den
    let found := (List.range 18).findSome? fun (n : Nat) => i.gridPoint (order - n)
    (found.getD ⟨i.value, 0⟩).stripZeros 400

end Binary64

/-! ## Where the digits go -/

/-- Which decimal exponents are written out in place, and how the others are marked. -/
structure Layout where
  /-- The smallest exponent of the first digit that is written in place. -/
  lowest : Int
  /-- The largest exponent of the first digit that is written in place. -/
  highest : Int
  /-- What stands before the digits of an exponent that is not negative. -/
  positiveMark : String

/-- The text of a decimal: in place with at least one digit after the point, or with one digit
before the point and an exponent. -/
def Decimal.render (layout : Layout) (d : Decimal) : String :=
  let digits := d.coefficient.repr
  let count := digits.length
  let order := d.exponent + (count : Int) - 1
  if layout.lowest ≤ order && order ≤ layout.highest then
    if 0 ≤ d.exponent then digits ++ String.ofList (List.replicate d.exponent.toNat '0') ++ ".0"
    else if 0 ≤ order then
      let whole := order.toNat + 1
      String.ofList (digits.toList.take whole) ++ "." ++ String.ofList (digits.toList.drop whole)
    else "0." ++ String.ofList (List.replicate (-order - 1).toNat '0') ++ digits
  else
    let fraction := if count = 1 then "" else "." ++ String.ofList (digits.toList.drop 1)
    let mark := if 0 ≤ order then layout.positiveMark else "-"
    String.ofList (digits.toList.take 1) ++ fraction ++ "e" ++ mark ++ order.natAbs.repr

/-- The text of a floating-point number under a layout. -/
def Binary64.render (layout : Layout) (x : Binary64) : String :=
  (if x.negative then "-" else "") ++ x.shortest.render layout

end TypedClient.Number
