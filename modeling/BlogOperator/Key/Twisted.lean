import BlogOperator.Key.Curve
import BlogOperator.Key.Digest

/-!
# The twisted curve

The curve `y² - x² = 1 + d x² y²` over the numbers modulo `2 ^ 255 - 19`. One rule adds any two of
its points. `Twisted.publicKey` is the public key that belongs to a seed: the digest of the seed
says how many times the generator it is.
-/

set_option autoImplicit false

namespace BlogOperator.Key.Twisted

open BlogOperator.Number

/-- The prime modulo which coordinates are taken. -/
def prime : Nat := Nat.pow 2 255 - 19

/-- The `d` of the curve: minus 121665 over 121666. -/
def constant : Int := 0x52036cee2b6ffe738cc740797779e89800700a4d4141d8ab75eb4dca135978a3

/-- The neutral point. -/
def neutral : Point := ⟨0, 1, 1⟩

/-- The generator, the point whose `y` is four fifths and whose `x` is even. -/
def generator : Point where
  x := 0x216936d3cd6e53fec0a4e231fdd6dc5c692cc7609525a7b2c9562d608f25d51a
  y := 0x6666666666666666666666666666666666666666666666666666666666666658
  z := 1

/-- The sum of two points. -/
def add (first second : Point) : Point :=
  let modulo (value : Int) : Int := value % prime
  let ⟨x₁, y₁, z₁⟩ := first
  let ⟨x₂, y₂, z₂⟩ := second
  let zz := modulo (z₁ * z₂)
  let xx := modulo (x₁ * x₂)
  let yy := modulo (y₁ * y₂)
  let xy := modulo (x₁ * y₂ + x₂ * y₁)
  let square := modulo (zz * zz)
  let twist := modulo (constant * modulo (xx * yy))
  { x := modulo (modulo (zz * xy) * (square - twist))
    y := modulo (modulo (zz * (xx + yy)) * (square + twist))
    z := modulo ((square - twist) * (square + twist)) }

/-- A point as it is written: its `y`, the lowest byte first, and in the highest bit whether its
`x` is odd. -/
def written (point : Point) : List UInt8 :=
  let inverse := inverse prime point.z
  let x := (point.x * inverse % prime).toNat
  let y := (point.y * inverse % prime).toNat
  (toBytes 32 (y + x % 2 * Nat.pow 2 255)).reverse

/-- How many times the generator the public key of a seed is: a multiple of eight with 255 bits,
taken from the first half of the digest of the seed. -/
def count (seed : List UInt8) : Nat :=
  let number := ofBytes ((digest seed).take 32).reverse
  Nat.pow 2 254 + number % Nat.pow 2 254 / 8 * 8

/-- The public key of a seed. -/
def publicKey (seed : List UInt8) : List UInt8 :=
  written (power add neutral (count seed) generator)

end BlogOperator.Key.Twisted
