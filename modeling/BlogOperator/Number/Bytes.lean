/-!
# Numbers as bytes

`ofBytes` is the number that bytes stand for, the most significant byte first, and `toBytes` writes
a number with so many bytes. A number that needs more of them loses its highest ones.
-/

set_option autoImplicit false

namespace BlogOperator.Number

/-- The number that bytes stand for, the most significant byte first. -/
def ofBytes (bytes : List UInt8) : Nat :=
  bytes.foldl (fun number byte ↦ 256 * number + byte.toNat) 0

/-- The last `count` bytes of a number, in front of bytes that are there already. -/
def toBytesBefore : (count : Nat) → (number : Nat) → List UInt8 → List UInt8
  | 0, _, bytes => bytes
  | count + 1, number, bytes =>
    toBytesBefore count (number / 256) (UInt8.ofNat (number % 256) :: bytes)

/-- The last `count` bytes of a number, the most significant byte first. -/
def toBytes (count number : Nat) : List UInt8 :=
  toBytesBefore count number []

/-- How many bits a number has, its highest one being set. -/
def bitCount (number : Nat) : Nat :=
  if number = 0 then 0 else Nat.log2 number + 1

theorem length_toBytesBefore (count number : Nat) (bytes : List UInt8) :
    (toBytesBefore count number bytes).length = count + bytes.length := by
  induction count generalizing number bytes with
  | zero => simp [toBytesBefore]
  | succ count ih =>
    rw [toBytesBefore, ih, List.length_cons]
    omega

@[simp] theorem length_toBytes (count number : Nat) : (toBytes count number).length = count := by
  simp [toBytes, length_toBytesBefore]

end BlogOperator.Number
