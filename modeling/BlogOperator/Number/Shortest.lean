import BlogOperator.Number.Decimal

/-!
# The shortest decimal of a binary number

A finite binary64 number is `mantissa · 2 ^ power`. The reals that round to it form an interval,
whose ends belong to it when the mantissa is even. `shortest` walks the decimal grids from one
digit to seventeen and takes the first that has a point in the interval, of two such points the
one nearer to the number. If any point of a grid lies in the interval then one of the number's two
neighbours on that grid does, so only those two are tried.
-/

set_option autoImplicit false

namespace BlogOperator.Number

/-- A positive binary number with the interval of reals that round to it, all as fractions over a
common denominator. -/
structure Rounding where
  low : Nat
  value : Nat
  high : Nat
  denominator : Nat
  closed : Bool
  deriving Repr

/-- The interval of the binary64 number `mantissa · 2 ^ power`. Below a power of two the grid is
twice as fine, unless the number is at the bottom of the range. -/
def Rounding.ofBinary (mantissa : Nat) (power : Int) : Rounding :=
  let below := if mantissa = Nat.pow 2 52 && power > -1074 then 1 else 2
  let scale := Nat.pow 2 (power - 2).toNat
  { low := (4 * mantissa - below) * scale
    value := 4 * mantissa * scale
    high := (4 * mantissa + 2) * scale
    denominator := Nat.pow 2 (2 - power).toNat
    closed := mantissa % 2 = 0 }

/-- Whether `point · 10 ^ exponent` rounds to the number. -/
def Rounding.holds (interval : Rounding) (point : Nat) (exponent : Int) : Bool :=
  let scaled := point * Nat.pow 10 exponent.toNat * interval.denominator
  let unit := Nat.pow 10 (-exponent).toNat
  if interval.closed then interval.low * unit ≤ scaled && scaled ≤ interval.high * unit
  else interval.low * unit < scaled && scaled < interval.high * unit

/-- The largest `point` with `point · 10 ^ exponent` not above the number. -/
def Rounding.floorAt (interval : Rounding) (exponent : Int) : Nat :=
  interval.value * Nat.pow 10 (-exponent).toNat /
    (interval.denominator * Nat.pow 10 exponent.toNat)

/-- Whether the grid point `point` is at most as far from the number as the one above it. -/
def Rounding.nearerBelow (interval : Rounding) (point : Nat) (exponent : Int) : Bool :=
  (2 * point + 1) * Nat.pow 10 exponent.toNat * interval.denominator ≥
    2 * interval.value * Nat.pow 10 (-exponent).toNat

/-- The power of ten of the number's leading digit. -/
def Rounding.magnitude (interval : Rounding) : Int :=
  let guess : Int := (Nat.toDigits 10 interval.value).length -
    (Nat.toDigits 10 interval.denominator).length
  if interval.floorAt guess = 0 then guess - 1 else guess

/-- The number's neighbour on the grid of `10 ^ exponent` that rounds to it, if there is one. -/
def Rounding.onGrid (interval : Rounding) (exponent : Int) : Option Nat :=
  let below := interval.floorAt exponent
  match interval.holds below exponent, interval.holds (below + 1) exponent with
  | true, true => some (if interval.nearerBelow below exponent then below else below + 1)
  | true, false => some below
  | false, true => some (below + 1)
  | false, false => none

/-- Removes the zeros that digits end with, at most `limit` of them, raising the power of ten. -/
def dropZeros : (limit : Nat) → (digits : Nat) → (exponent : Int) → Nat × Int
  | 0, digits, exponent => (digits, exponent)
  | limit + 1, digits, exponent =>
    if digits ≠ 0 ∧ digits % 10 = 0 then dropZeros limit (digits / 10) (exponent + 1)
    else (digits, exponent)

/-- The digits and power of ten of the first decimal grid that has a point in the interval. -/
def Rounding.shortest (interval : Rounding) : Nat × Int :=
  let magnitude := interval.magnitude
  let found := (List.range 17).findSome? fun (places : Nat) ↦
    let exponent := magnitude - places
    (interval.onGrid exponent).map fun point ↦ dropZeros 20 point exponent
  found.getD (interval.floorAt (magnitude - 16), magnitude - 16)

/-- The shortest decimal that reads back as the finite binary64 number with these bits. -/
def Decimal.ofBits (bits : UInt64) : Decimal :=
  let negative := bits.toNat / Nat.pow 2 63 = 1
  let biased := bits.toNat / Nat.pow 2 52 % Nat.pow 2 11
  let fraction := bits.toNat % Nat.pow 2 52
  if biased = 0 && fraction = 0 then ⟨negative, 0, 0⟩
  else
    let mantissa := if biased = 0 then fraction else Nat.pow 2 52 + fraction
    let power : Int := (if biased = 0 then 1 else biased : Nat) - 1075
    let (digits, exponent) := (Rounding.ofBinary mantissa power).shortest
    ⟨negative, digits, exponent⟩

/-- A number read from text as `significand · 10 ^ exponent`: the significand is rounded to
binary64, then multiplied or divided by the power of ten with a second rounding. None if the result
is beyond the largest number. -/
def Decimal.ofScientific (negative : Bool) (significand : Nat) (exponent : Int) :
    Option Decimal :=
  let whole := Float.ofNat significand
  let tenTo (power : Nat) : Float := Float.ofScientific 1 false power
  let size :=
    if significand = 0 then some 0
    else if exponent > 308 then none
    else if exponent ≥ 0 then
      let product := whole * tenTo exponent.toNat
      if product.isInf then none else some product
    else if exponent ≥ -308 then some (whole / tenTo (-exponent).toNat)
    else if exponent ≥ -616 then some (whole / tenTo 308 / tenTo (-exponent - 308).toNat)
    else some 0
  size.map fun size ↦ { Decimal.ofBits size.toBits with negative }

/-- A number read from text as `significand · 10 ^ exponent` and rounded once to binary64. None if
the result is beyond the largest number. -/
def Decimal.nearest (negative : Bool) (significand : Nat) (exponent : Int) : Option Decimal :=
  let places : Int := (Nat.toDigits 10 significand).length
  let size :=
    if significand = 0 ∨ places + exponent < -400 then some 0
    else if places + exponent > 400 then none
    else
      let size := Float.ofScientific significand (exponent < 0) exponent.natAbs
      if size.isInf then none else some size
  size.map fun size ↦ { Decimal.ofBits size.toBits with negative }

end BlogOperator.Number
