import BlogOperator.Json.Fault
import BlogOperator.Number.Digit
import BlogOperator.Number.Shortest

/-!
# Plain scalars

A scalar of YAML that stands without quotes may be a null, a truth value, an integer or a decimal,
and is a text if it is none of these. `resolve` says which. Integers may be hexadecimal, octal or
binary; a row of digits that begins with a zero is a text.
-/

set_option autoImplicit false

namespace BlogOperator.Yaml

open BlogOperator.Json BlogOperator.Number

/-- The spellings of a null. -/
def nullSpellings : List String := ["~", "null", "Null", "NULL"]

/-- The truth value that a scalar spells. -/
def boolean? (text : String) : Option Bool :=
  if ["true", "True", "TRUE"].contains text then some true
  else if ["false", "False", "FALSE"].contains text then some false
  else none

/-- Whether characters without a sign are a zero and further digits. -/
def isPadded : List Char → Bool
  | '0' :: rest => !rest.isEmpty && rest.all Char.isDigit
  | _ => false

/-- The value of an integer without a sign. -/
def magnitude? : List Char → Option Nat
  | '0' :: 'x' :: digits => natural? 16 digits
  | '0' :: 'o' :: digits => natural? 8 digits
  | '0' :: 'b' :: digits => natural? 2 digits
  | digits => if isPadded digits then none else natural? 10 digits

/-- The integer that a scalar spells, within 128 bits. -/
def integer? (text : String) : Option Int :=
  let (negative, digits) := signed text.toList
  (magnitude? digits).bind fun value ↦
    if negative then
      if value ≤ Nat.pow 2 127 then some (-(value : Int)) else none
    else if value < Nat.pow 2 128 then some value else none

/-- An exponent after its letter, zero where there is none. -/
def exponent? : List Char → Option Int
  | [] => some 0
  | letter :: rest =>
    if letter = 'e' || letter = 'E' then
      let (negative, digits) := signed rest
      (natural? 10 digits).map fun value ↦ if negative then -(value : Int) else value
    else none

/-- The decimal that a scalar spells, if it is not beyond the largest number. -/
def decimal? (text : String) : Option Decimal := do
  let (negative, rest) := signed text.toList
  let whole := rest.takeWhile Char.isDigit
  let rest := rest.dropWhile Char.isDigit
  let (fraction, rest) :=
    match rest with
    | '.' :: rest => (rest.takeWhile Char.isDigit, rest.dropWhile Char.isDigit)
    | rest => ([], rest)
  let significand ← natural? 10 (whole ++ fraction)
  let exponent ← exponent? rest
  Decimal.nearest negative significand (exponent - fraction.length)

/-- The decimal without a finite value that a scalar spells. -/
def boundless? (text : String) : Option Found :=
  if [".inf", ".Inf", ".INF", "+.inf", "+.Inf", "+.INF"].contains text then some (.infinity false)
  else if ["-.inf", "-.Inf", "-.INF"].contains text then some (.infinity true)
  else if [".nan", ".NaN", ".NAN"].contains text then some .undefined
  else none

/-- The decimal that a scalar spells, finite or not. -/
def real? (text : String) : Option Found :=
  boundless? text <|> (Found.number ∘ .decimal) <$> decimal? text

/-- What a plain scalar is; an empty one is a null. -/
def resolve (text : String) : Found :=
  if text.isEmpty || nullSpellings.contains text then .nothing
  else
    let found? :=
      Found.bool <$> boolean? text <|>
      (Found.number ∘ .integer) <$> integer? text <|>
      if isPadded (signed text.toList).2 then none else real? text
    found?.getD (.text text)

/-- The wording for YAML: integers beyond 64 bits are told apart, and decimals are written out. -/
def wording : Wording where
  nothing := "unit value"
  integer value :=
    if 18446744073709551615 < value then s!"integer `{value}` as u128"
    else if value < -9223372036854775808 then s!"integer `{value}` as i128"
    else s!"integer `{value}`"
  decimal := Decimal.positional

end BlogOperator.Yaml
