/-!
# Bytes in base 64

`decodeBase64` reads bytes that are written with four characters for three of them. Padding must be
there, and the bits that the last character has left over must be zero.
-/

set_option autoImplicit false

namespace BlogOperator.Text

/-- Why a text does not hold bytes in base 64. -/
inductive Base64Fault where
  /-- A byte that is no digit, or padding where there should be none. -/
  | invalidSymbol (symbol : UInt8) (offset : Nat)
  /-- The last digit stands alone. -/
  | invalidLength (length : Nat)
  /-- The last digit says more than there is room for. -/
  | invalidLastSymbol (symbol : UInt8) (offset : Nat)
  | invalidPadding
  deriving DecidableEq, Repr

/-- The sentence that reports a fault. -/
def Base64Fault.message : Base64Fault → String
  | .invalidSymbol symbol offset => s!"Invalid symbol {symbol}, offset {offset}."
  | .invalidLength length => s!"Invalid input length: {length}"
  | .invalidLastSymbol symbol offset => s!"Invalid last symbol {symbol}, offset {offset}."
  | .invalidPadding => "Invalid padding"

/-- The value of a digit. -/
def base64Digit? (symbol : UInt8) : Option Nat :=
  if 0x41 ≤ symbol && symbol ≤ 0x5a then some (symbol.toNat - 0x41)
  else if 0x61 ≤ symbol && symbol ≤ 0x7a then some (symbol.toNat - 0x61 + 26)
  else if 0x30 ≤ symbol && symbol ≤ 0x39 then some (symbol.toNat - 0x30 + 52)
  else if symbol = 0x2b then some 62
  else if symbol = 0x2f then some 63
  else none

/-- The byte that pads the last digits. -/
def base64Padding : UInt8 := 0x3d

/-- The values of digits that begin at an offset. -/
def base64Digits (offset : Nat) : List UInt8 → Except Base64Fault (List Nat)
  | [] => .ok []
  | symbol :: rest =>
    match base64Digit? symbol with
    | none => .error (.invalidSymbol symbol offset)
    | some digit => do
      let digits ← base64Digits (offset + 1) rest
      return digit :: digits

/-- The bytes that up to four digits stand for; bits that make up no byte are left out. -/
def base64Bytes (digits : List Nat) : List UInt8 :=
  let number := (digits ++ List.replicate (4 - digits.length) 0).foldl (64 * · + ·) 0
  [(number / 65536).toUInt8, (number / 256 % 256).toUInt8, (number % 256).toUInt8].take
    (digits.length * 6 / 8)

/-- The bits of the last digit that no byte needs. -/
def base64Excess (digits : List Nat) : Nat :=
  let last := digits.getLastD 0
  match digits.length with
  | 2 => last % 16
  | 3 => last % 4
  | _ => 0

/-- The bytes of the last digits, which begin at an offset and may be padded. -/
def decodeLastBase64 (offset : Nat) (symbols : List UInt8) :
    Except Base64Fault (List UInt8) := do
  let written := symbols.takeWhile (· ≠ base64Padding)
  let padding := symbols.drop written.length
  let digits ← base64Digits offset written
  if written.length < 2 && !padding.isEmpty then
    throw (.invalidSymbol base64Padding (offset + written.length))
  if padding.any (· ≠ base64Padding) then
    throw (.invalidSymbol base64Padding (offset + written.length))
  if !(offset = 0 && symbols.isEmpty) && digits.length < 2 then
    throw (.invalidLength (offset + digits.length))
  if symbols.length % 4 ≠ 0 then throw .invalidPadding
  if base64Excess digits ≠ 0 then
    throw (.invalidLastSymbol (written.getLastD 0) (offset + digits.length - 1))
  return base64Bytes digits

/-- The bytes of digits in fours that begin at an offset, the last of which may be padded. -/
def decodeBase64From (offset : Nat) : List UInt8 → Except Base64Fault (List UInt8)
  | first :: second :: third :: fourth :: next :: rest => do
    let digits ← base64Digits offset [first, second, third, fourth]
    let bytes ← decodeBase64From (offset + 4) (next :: rest)
    return base64Bytes digits ++ bytes
  | symbols => decodeLastBase64 offset symbols

/-- The bytes that a text holds in base 64. A last byte that belongs to no four and is no digit is
noticed first. -/
def decodeBase64 (symbols : List UInt8) : Except Base64Fault (List UInt8) :=
  match symbols.getLast? with
  | some last =>
    if symbols.length % 4 = 1 && last ≠ base64Padding && (base64Digit? last).isNone then
      .error (.invalidSymbol last (symbols.length - 1))
    else decodeBase64From 0 symbols
  | none => .ok []

end BlogOperator.Text
