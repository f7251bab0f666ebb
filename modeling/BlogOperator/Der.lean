import BlogOperator.Number.Bytes

/-!
# Elements

Certificates and keys are made of elements: a kind, the number of bytes of the contents, and the
contents, which may be elements again. A number of bytes is written in as few bytes as it takes.
A `Scan` takes the elements of a row of bytes one after the other; what is not there is refused with
a fault that the caller names. `written` is how an element is written, and `element?_written` says
that it is read like that.
-/

set_option autoImplicit false

namespace BlogOperator.Der

open BlogOperator.Number

/-! ### Kinds -/

/-- The kind of a truth value. -/
def truth : UInt8 := 0x01

/-- The kind of a whole number. -/
def integer : UInt8 := 0x02

/-- The kind of a row of bits. -/
def bitString : UInt8 := 0x03

/-- The kind of a row of bytes. -/
def byteString : UInt8 := 0x04

/-- The kind of a name that is registered by its numbers. -/
def identifier : UInt8 := 0x06

/-- The kind of a row of elements. -/
def sequence : UInt8 := 0x30

/-- The kind of a part of a sequence that may be left out and therefore has a number, with an
element in it. -/
def tagged (number : UInt8) : UInt8 := 0xa0 + number

/-- The kind of a part with a number that is no element itself. -/
def plainTagged (number : UInt8) : UInt8 := 0x80 + number

/-! ### Writing -/

/-- The number of bytes of the contents, as it is written. -/
def writtenSize (size : Nat) : List UInt8 :=
  if size < 0x80 then toBytes 1 size
  else if size < 0x100 then 0x81 :: toBytes 1 size
  else 0x82 :: toBytes 2 size

/-- An element as it is written. -/
def written (kind : UInt8) (contents : List UInt8) : List UInt8 :=
  kind :: (writtenSize contents.length ++ contents)

/-- A row of bits of which none is left over, as it is written. -/
def writtenBits (contents : List UInt8) : List UInt8 :=
  written bitString (0 :: contents)

/-- A whole number that is not negative, as it is written: its first bit is zero. -/
def writtenNatural (number : Nat) : List UInt8 :=
  written integer (toBytes (bitCount number / 8 + 1) number)

/-! ### Reading -/

/-- The contents of an element are shorter than this. -/
def sizeLimit : Nat := 0xffff

/-- The number of bytes of the contents ahead, and what follows it. -/
def size? : List UInt8 → Option (Nat × List UInt8)
  | 0x81 :: low :: rest => if low < 0x80 then none else some (low.toNat, rest)
  | 0x82 :: high :: low :: rest =>
    if high = 0 then none else some (256 * high.toNat + low.toNat, rest)
  | first :: rest => if first < 0x80 then some (first.toNat, rest) else none
  | [] => none

/-- The element ahead, its kind and its contents, and what follows it. Kinds of more than one byte
are not known. -/
def element? : List UInt8 → Option ((UInt8 × List UInt8) × List UInt8)
  | [] => none
  | kind :: rest => do
    if kind % 32 = 31 then none
    let (size, rest) ← size? rest
    if sizeLimit ≤ size || rest.length < size then none
    return ((kind, rest.take size), rest.drop size)

/-! ### Reading what is written -/

theorem size?_cons {first : UInt8} (h : first < 0x80) (rest : List UInt8) :
    size? (first :: rest) = some (first.toNat, rest) := by
  have h81 : first ≠ 0x81 := by rintro rfl; exact absurd h (by decide)
  have h82 : first ≠ 0x82 := by rintro rfl; exact absurd h (by decide)
  unfold size?
  split
  · simp_all
  · simp_all
  · simp_all
  · simp_all

theorem size?_writtenSize {size : Nat} (h : size < sizeLimit) (rest : List UInt8) :
    size? (writtenSize size ++ rest) = some (size, rest) := by
  have hl : size < 0xffff := h
  unfold writtenSize
  split
  · next hs =>
    have hb : UInt8.ofNat (size % 256) < 0x80 := by
      rw [UInt8.lt_iff_toNat_lt]
      simp
      omega
    have ht : (UInt8.ofNat (size % 256)).toNat = size := by
      simp
      omega
    rw [toBytes, toBytesBefore, toBytesBefore, List.singleton_append, size?_cons hb, ht]
  · next hs =>
    split
    · next hm =>
      have hb : ¬ UInt8.ofNat (size % 256) < 0x80 := by
        rw [UInt8.lt_iff_toNat_lt]
        simp
        omega
      have ht : (UInt8.ofNat (size % 256)).toNat = size := by
        simp
        omega
      rw [toBytes, toBytesBefore, toBytesBefore, List.cons_append, List.singleton_append, size?,
        if_neg hb, ht]
    · next hm =>
      have hb : UInt8.ofNat (size / 256 % 256) ≠ 0 := by
        intro hz
        have := congrArg UInt8.toNat hz
        simp at this
        omega
      have ht : 256 * (UInt8.ofNat (size / 256 % 256)).toNat + (UInt8.ofNat (size % 256)).toNat =
          size := by
        simp
        omega
      rw [toBytes, toBytesBefore, toBytesBefore, toBytesBefore]
      simp only [List.cons_append, List.nil_append, size?]
      rw [if_neg hb, ht]

/-- What is written as an element is read as one. -/
theorem element?_written {kind : UInt8} (hk : kind % 32 ≠ 31) {contents : List UInt8}
    (h : contents.length < sizeLimit) (rest : List UInt8) :
    element? (written kind contents ++ rest) = some ((kind, contents), rest) := by
  simp only [written, List.cons_append, List.append_assoc, element?]
  rw [size?_writtenSize h]
  simp [hk, Nat.not_le.mpr h]

/-! ### Going through bytes -/

/-- A way through a row of bytes. -/
abbrev Scan (φ α : Type) := StateT (List UInt8) (Except φ) α

variable {φ α : Type}

/-- Takes the contents of an element of a kind. -/
def element (fault : φ) (kind : UInt8) : Scan φ (List UInt8) := do
  match element? (← get) with
  | some ((found, contents), rest) =>
    if found ≠ kind then throw fault
    set rest
    return contents
  | none => throw fault

/-- Goes through bytes to their end. -/
def whole (fault : φ) (scan : Scan φ α) (bytes : List UInt8) : Except φ α := do
  let (value, rest) ← scan.run bytes
  if rest.isEmpty then return value else throw fault

/-- Goes through the contents of an element of a kind to their end. -/
def inside (fault : φ) (kind : UInt8) (scan : Scan φ α) : Scan φ α := do
  whole fault scan (← element fault kind)

/-- Whether an element of a kind is ahead. -/
def sees (kind : UInt8) : Scan φ Bool :=
  return (← get).head? = some kind

/-- Whether nothing is ahead. -/
def atEnd : Scan φ Bool :=
  return (← get).isEmpty

/-- Takes an element of a kind, if there is one. -/
def optional (fault : φ) (kind : UInt8) : Scan φ (Option (List UInt8)) := do
  if ← sees kind then some <$> element fault kind else return none

/-- Takes a whole number that is not negative and has no zeros in front of it. -/
def natural (fault : φ) : Scan φ Nat := do
  let contents ← element fault integer
  match contents with
  | [] => throw fault
  | [0] => return 0
  | 0 :: next :: _ => if next < 0x80 then throw fault
  | first :: _ => if 0x80 ≤ first then throw fault
  return ofBytes contents

/-- Takes a whole number of one byte. -/
def small (fault : φ) : Scan φ Nat := do
  let number ← natural fault
  if number < 256 then return number else throw fault

/-- The bytes of a row of bits of which none is left over. -/
def wholeBytes (fault : φ) : List UInt8 → Except φ (List UInt8)
  | 0 :: contents => .ok contents
  | _ => .error fault

/-- Takes a row of bits of which none is left over. -/
def bits (fault : φ) : Scan φ (List UInt8) := do
  wholeBytes fault (← element fault bitString)

end BlogOperator.Der
