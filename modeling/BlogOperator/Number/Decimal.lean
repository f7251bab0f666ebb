/-!
# Decimal numbers

A `Decimal` is a sign, a natural number of digits and a power of ten. Zero keeps its sign, because
a reader that is given `-0` hands it on as such.
-/

set_option autoImplicit false

namespace BlogOperator.Number

/-- The number `± digits · 10 ^ exponent`. -/
structure Decimal where
  negative : Bool
  digits : Nat
  exponent : Int
  deriving DecidableEq, Repr, Inhabited

namespace Decimal

/-- The digits as they are written, most significant first. -/
def digitText (number : Decimal) : List Char :=
  Nat.toDigits 10 number.digits

/-- The power of ten of the leading digit. -/
def magnitude (number : Decimal) : Int :=
  number.digitText.length - 1 + number.exponent

/-- The sign as it is written. -/
def signText (number : Decimal) : String :=
  if number.negative then "-" else ""

/-- All places written out, with a point and at least one digit on either side of it. -/
def positional (number : Decimal) : String :=
  let digits := number.digitText
  let whole : Int := digits.length + number.exponent
  let body :=
    if number.exponent ≥ 0 then
      String.ofList (digits ++ List.replicate number.exponent.toNat '0') ++ ".0"
    else if whole > 0 then
      String.ofList (digits.take whole.toNat) ++ "." ++ String.ofList (digits.drop whole.toNat)
    else
      "0." ++ String.ofList (List.replicate (-whole).toNat '0' ++ digits)
  number.signText ++ body

/-- The leading digit, the others after a point if there are any, and the power of ten, with `plus`
before it where it is not negative. -/
def scientific (plus : String) (number : Decimal) : String :=
  let digits := number.digitText
  let fraction := digits.drop 1
  let mantissa := String.ofList (digits.take 1) ++
    if fraction.isEmpty then "" else "." ++ String.ofList fraction
  let power := number.magnitude
  number.signText ++ mantissa ++ "e" ++ (if power < 0 then "-" else plus) ++ toString power.natAbs

/-- Positional from a hundred-thousandth up to sixteen places before the point, scientific
elsewhere, with `plus` before a power of ten that is not negative; zero is positional. -/
def compact (plus : String) (number : Decimal) : String :=
  if number.digits = 0 then number.signText ++ "0.0"
  else if -5 ≤ number.magnitude && number.magnitude ≤ 15 then number.positional
  else number.scientific plus

end Decimal

end BlogOperator.Number
