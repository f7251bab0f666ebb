import BlogOperator.Number.Bytes

/-!
# The digest of bytes

`digest` is the secure hash of 512 bits. Bytes are padded to blocks of 128, and each block changes
eight words of 64 bits in eighty rounds. The constants are the fractions of roots of the first
primes: the words at the beginning those of square roots, the words of the rounds those of cube
roots.
-/

set_option autoImplicit false

namespace BlogOperator.Key

open BlogOperator.Number

/-! ### Constants -/

/-- The first eighty primes: the numbers below 410 with no divisor but one and themselves. -/
def firstPrimes : List Nat :=
  (List.range 410).filter fun number ↦
    2 ≤ number && (List.range number).all fun divisor ↦ divisor < 2 || number % divisor ≠ 0

/-- The largest root whose image under an increasing function is not above a number, with `bits`
more bits to be found below those of `known`. -/
def rootFrom (image : Nat → Nat) (number : Nat) : (bits : Nat) → (known : Nat) → Nat
  | 0, known => known
  | bits + 1, known =>
    let next := known + Nat.pow 2 bits
    rootFrom image number bits (if image next ≤ number then next else known)

/-- The first 64 bits of the fraction of a square root. -/
def squareRootFraction (number : Nat) : UInt64 :=
  UInt64.ofNat (rootFrom (fun root ↦ root * root) (number * Nat.pow 2 128) 70 0)

/-- The first 64 bits of the fraction of a cube root. -/
def cubeRootFraction (number : Nat) : UInt64 :=
  UInt64.ofNat (rootFrom (fun root ↦ root * root * root) (number * Nat.pow 2 192) 70 0)

/-- The words of the rounds. -/
def roundWords : List UInt64 :=
  firstPrimes.map cubeRootFraction

/-! ### Rounds -/

/-- A word turned to the right. -/
def turned (word count : UInt64) : UInt64 :=
  word >>> count ||| word <<< (64 - count)

/-- The eight words that blocks change. -/
structure DigestState where
  a : UInt64
  b : UInt64
  c : UInt64
  d : UInt64
  e : UInt64
  f : UInt64
  g : UInt64
  h : UInt64
  deriving DecidableEq, Repr, Inhabited

namespace DigestState

/-- The words in order. -/
def words (state : DigestState) : List UInt64 :=
  [state.a, state.b, state.c, state.d, state.e, state.f, state.g, state.h]

/-- The state with these words. -/
def ofWords : List UInt64 → DigestState
  | [a, b, c, d, e, f, g, h] => ⟨a, b, c, d, e, f, g, h⟩
  | _ => default

/-- The state before the first block. -/
def start : DigestState :=
  ofWords ((firstPrimes.take 8).map squareRootFraction)

/-- One round, with the sum of the word of the round and one from the block. -/
def round (state : DigestState) (word : UInt64) : DigestState :=
  let ⟨a, b, c, d, e, f, g, h⟩ := state
  let choice := (e &&& f) ^^^ (~~~e &&& g)
  let majority := (a &&& b) ^^^ (a &&& c) ^^^ (b &&& c)
  let first := h + (turned e 14 ^^^ turned e 18 ^^^ turned e 41) + choice + word
  let second := (turned a 28 ^^^ turned a 34 ^^^ turned a 39) + majority
  ⟨first + second, a, b, c, d + first, e, f, g⟩

end DigestState

/-- The word that follows sixteen words of a block, the latest of which comes first. -/
def nextWord (latest : List UInt64) : UInt64 :=
  let back (count : Nat) : UInt64 := (latest[count - 1]?).getD 0
  let low := turned (back 15) 1 ^^^ turned (back 15) 8 ^^^ (back 15 >>> 7)
  let high := turned (back 2) 19 ^^^ turned (back 2) 61 ^^^ (back 2 >>> 6)
  back 16 + low + back 7 + high

/-- Words with `count` more of them in front, each made of those after it. -/
def extended : (count : Nat) → List UInt64 → List UInt64
  | 0, latest => latest
  | count + 1, latest => extended count (nextWord latest :: latest)

/-- Bytes in pieces of a length, as long as there are whole ones; `bound` is how many there may
be. -/
def pieces (length : Nat) : (bound : Nat) → List UInt8 → List (List UInt8)
  | 0, _ => []
  | bound + 1, bytes =>
    if bytes.length < length then []
    else bytes.take length :: pieces length bound (bytes.drop length)

/-- The state after a block. -/
def DigestState.compress (state : DigestState) (block : List UInt8) : DigestState :=
  let first := (pieces 8 16 block).map fun bytes ↦ UInt64.ofNat (ofBytes bytes)
  let words := (extended 64 first.reverse).reverse
  let after := (List.zipWith (· + ·) roundWords words).foldl DigestState.round state
  ofWords (List.zipWith (· + ·) state.words after.words)

/-! ### The digest -/

/-- Bytes with what makes whole blocks of them: a bit that is set, zeros, and the number of bits. -/
def padded (bytes : List UInt8) : List UInt8 :=
  let zeros := 127 - (bytes.length + 16) % 128
  bytes ++ 0x80 :: (List.replicate zeros 0 ++ toBytes 16 (8 * bytes.length))

/-- The digest of bytes. -/
def digest (bytes : List UInt8) : List UInt8 :=
  let padded := padded bytes
  let state := (pieces 128 (padded.length / 128) padded).foldl DigestState.compress .start
  state.words.flatMap fun word ↦ toBytes 8 word.toNat

@[simp] theorem length_digest (bytes : List UInt8) : (digest bytes).length = 64 := by
  simp [digest, DigestState.words]

end BlogOperator.Key
