import BlogOperator.Number.Bytes
import BlogOperator.Number.Power

/-!
# Curves

The points of a `Curve` `y² = x³ - 3x + b` over the numbers modulo a prime, which form a group of
prime order. Points have three coordinates up to a common factor, so that the point at infinity is
one like the others and one rule adds any two of them. `Curve.publicKey?` is the public key that
belongs to a private one: so many times the generator.
-/

set_option autoImplicit false

namespace BlogOperator.Key

open BlogOperator.Number

/-- A point `(x / z, y / z)`; the point at infinity is the one with no `z`. -/
structure Point where
  x : Int
  y : Int
  z : Int
  deriving DecidableEq, Repr

/-- A curve `y² = x³ - 3x + b` over the numbers modulo a prime, with a generator of its points. -/
structure Curve where
  prime : Nat
  constant : Int
  /-- How many points there are. -/
  order : Nat
  generatorX : Int
  generatorY : Int
  /-- How many bytes a coordinate takes. -/
  size : Nat
  deriving DecidableEq, Repr

namespace Curve

/-- The point at infinity, which is neutral. -/
def infinity : Point := ⟨0, 1, 0⟩

/-- The generator. -/
def generator (curve : Curve) : Point :=
  ⟨curve.generatorX, curve.generatorY, 1⟩

/-- The sum of two points, by a rule that holds for all of them where their number is odd. -/
def add (curve : Curve) (first second : Point) : Point :=
  let modulo (value : Int) : Int := value % curve.prime
  let ⟨x₁, y₁, z₁⟩ := first
  let ⟨x₂, y₂, z₂⟩ := second
  let xx := x₁ * x₂
  let yy := y₁ * y₂
  let zz := z₁ * z₂
  let xy := modulo (x₁ * y₂ + x₂ * y₁)
  let xz := modulo (x₁ * z₂ + x₂ * z₁)
  let yz := modulo (y₁ * z₂ + y₂ * z₁)
  let bend := modulo (3 * curve.constant * zz - 3 * xz)
  let tilt := modulo (3 * (xx - zz))
  let rest := modulo (3 * (curve.constant * xz - xx) - 9 * zz)
  { x := modulo (xy * (yy - bend) - yz * rest)
    y := modulo (tilt * rest + (yy + bend) * (yy - bend))
    z := modulo (yz * (yy + bend) + xy * tilt) }

/-- A point added to itself `count` times. -/
def multiple (curve : Curve) (count : Nat) (point : Point) : Point :=
  power curve.add infinity count point

/-- A point as it is written: its two coordinates in full. -/
def written (curve : Curve) (point : Point) : List UInt8 :=
  let inverse := inverse curve.prime point.z
  let coordinate (value : Int) : List UInt8 :=
    toBytes curve.size (value * inverse % curve.prime).toNat
  0x04 :: (coordinate point.x ++ coordinate point.y)

/-- The public key of a private one, which must be a number of the right size below the order. -/
def publicKey? (curve : Curve) (secret : List UInt8) : Option (List UInt8) :=
  let count := ofBytes secret
  if secret.length = curve.size && 0 < count && count < curve.order then
    some (curve.written (curve.multiple count curve.generator))
  else none

/-- The standard curve of 256 bits. -/
def short : Curve where
  prime := Nat.pow 2 256 - Nat.pow 2 224 + Nat.pow 2 192 + Nat.pow 2 96 - 1
  constant := 0x5ac635d8aa3a93e7b3ebbd55769886bc651d06b0cc53b0f63bce3c3e27d2604b
  order := 0xffffffff00000000ffffffffffffffffbce6faada7179e84f3b9cac2fc632551
  generatorX := 0x6b17d1f2e12c4247f8bce6e563a440f277037d812deb33a0f4a13945d898c296
  generatorY := 0x4fe342e2fe1a7f9b8ee7eb4a7c0f9e162bce33576b315ececbb6406837bf51f5
  size := 32

/-- The number of 384 bits with these halves. -/
def joined (high low : Nat) : Nat :=
  high * Nat.pow 2 192 + low

/-- The standard curve of 384 bits. -/
def long : Curve where
  prime := Nat.pow 2 384 - Nat.pow 2 128 - Nat.pow 2 96 + Nat.pow 2 32 - 1
  constant := joined 0xb3312fa7e23ee7e4988e056be3f82d19181d9c6efe814112
    0x0314088f5013875ac656398d8a2ed19d2a85c8edd3ec2aef
  order := Nat.pow 2 384 - 0x389cb27e0bc8d220a7e5f24db74f58851313e695333ad68d
  generatorX := joined 0xaa87ca22be8b05378eb1c71ef320ad746e1d3b628ba79b98
    0x59f741e082542a385502f25dbf55296c3a545e3872760ab7
  generatorY := joined 0x3617de4a96262c6f5d9e98bf9292dc29f8f41dbd289a147c
    0xe9da3113b5f0b8c00a60b1ce1d7e819d7a431d7c90ea0e5f
  size := 48

end Curve

end BlogOperator.Key
