import BlogOperator.Der

/-!
# Keys made of two primes

An `RsaKey` is a product of two primes with exponents that undo each other. It is written as a
sequence of numbers (`RsaKey.scan`), and `RsaKey.isSound` checks what can be checked of them at
little cost.
-/

set_option autoImplicit false

namespace BlogOperator.Key

open BlogOperator.Der BlogOperator.Number

/-- A private key made of two primes. -/
structure RsaKey where
  modulus : Nat
  publicExponent : Nat
  privateExponent : Nat
  first : Nat
  second : Nat
  /-- The private exponent as far as the first prime goes. -/
  firstExponent : Nat
  secondExponent : Nat
  /-- The inverse of the second prime modulo the first. -/
  coefficient : Nat
  deriving DecidableEq, Repr

namespace RsaKey

/-- Reads a key, which begins with the number of its version. -/
def scan : Scan Unit RsaKey := do
  if (← small ()) ≠ 0 then throw ()
  return {
    modulus := ← natural ()
    publicExponent := ← natural ()
    privateExponent := ← natural ()
    first := ← natural ()
    second := ← natural ()
    firstExponent := ← natural ()
    secondExponent := ← natural ()
    coefficient := ← natural () }

/-- Half the bits of the modulus, rounded up. -/
def half (key : RsaKey) : Nat :=
  (bitCount key.modulus + 1) / 2

/-- Whether a modulus is large enough, counted in whole bytes, and not too large. -/
def isModulus (modulus : Nat) : Bool :=
  modulus % 2 = 1 && 2040 < bitCount modulus && bitCount modulus ≤ 4096

/-- Whether a number may be the public exponent. -/
def isPublicExponent (exponent : Nat) : Bool :=
  exponent % 2 = 1 && 65537 ≤ exponent && exponent < Nat.pow 2 33

/-- Whether a number may be one of the primes. -/
def isFactor (key : RsaKey) (factor : Nat) : Bool :=
  factor % 2 = 1 && bitCount factor = key.half && bitCount factor % 512 = 0

/-- Whether a number may be a private exponent below a bound. -/
def isPrivateExponent (bound exponent : Nat) : Bool :=
  exponent % 2 = 1 && exponent < bound

/-- Whether the numbers of a key go together. -/
def isSound (key : RsaKey) : Bool :=
  isModulus key.modulus && isPublicExponent key.publicExponent &&
    key.isFactor key.first && key.isFactor key.second &&
    key.first * key.second % key.modulus = 0 &&
    isPrivateExponent key.modulus key.privateExponent &&
    key.half < bitCount key.privateExponent &&
    isPrivateExponent key.first key.firstExponent &&
    isPrivateExponent key.second key.secondExponent &&
    key.coefficient < key.first && key.second * key.coefficient % key.first = 1

/-- The public key as it is written. -/
def publicKey (key : RsaKey) : List UInt8 :=
  written sequence (writtenNatural key.modulus ++ writtenNatural key.publicExponent)

end RsaKey

end BlogOperator.Key
