/-!
# Text from bytes

`decodeUtf8` reads bytes as UTF-8 or says where they stop being so: after how many good bytes, and
whether the next few bytes can never be completed to a character (`invalid`) or merely break off
(`incomplete`). An overlong form, a surrogate and a number above the last character are invalid at
the first byte that rules them out.
-/

set_option autoImplicit false

namespace BlogOperator.Text

/-- Why a sequence of bytes is not UTF-8. `index` counts the good bytes before the bad ones. -/
inductive Utf8Fault where
  /-- The next `width` bytes begin no character. -/
  | invalid (width index : Nat)
  /-- The bytes end inside a character. -/
  | incomplete (index : Nat)
  deriving DecidableEq, Repr

/-- The sentence that reports a fault. -/
def Utf8Fault.message : Utf8Fault → String
  | .invalid width index =>
    s!"invalid utf-8 sequence of {width} bytes from index {index}"
  | .incomplete index => s!"incomplete utf-8 byte sequence from index {index}"

/-- A byte that continues a character. -/
def isContinuation (byte : UInt8) : Bool :=
  0x80 ≤ byte && byte ≤ 0xbf

/-- The second bytes that may follow a first byte: narrower than the continuation bytes where a
wider choice would give an overlong form, a surrogate or too large a number. -/
def maySecond (first second : UInt8) : Bool :=
  if first = 0xe0 then 0xa0 ≤ second && second ≤ 0xbf
  else if first = 0xed then 0x80 ≤ second && second ≤ 0x9f
  else if first = 0xf0 then 0x90 ≤ second && second ≤ 0xbf
  else if first = 0xf4 then 0x80 ≤ second && second ≤ 0x8f
  else isContinuation second

/-- How many bytes the character that starts with this byte takes, or none if no character does. -/
def characterWidth (first : UInt8) : Option Nat :=
  if first < 0x80 then some 1
  else if 0xc2 ≤ first && first ≤ 0xdf then some 2
  else if 0xe0 ≤ first && first ≤ 0xef then some 3
  else if 0xf0 ≤ first && first ≤ 0xf4 then some 4
  else none

/-- The six payload bits of a continuation byte. -/
def payload (byte : UInt8) : Nat :=
  byte.toNat % 64

/-- Reads the characters of `bytes`; `index` bytes have been read before them. -/
def decodeUtf8From (index : Nat) : List UInt8 → Except Utf8Fault (List Char)
  | [] => .ok []
  | first :: rest =>
    match characterWidth first with
    | none => .error (.invalid 1 index)
    | some 1 => do
      let after ← decodeUtf8From (index + 1) rest
      return Char.ofNat first.toNat :: after
    | some width =>
      match rest with
      | [] => .error (.incomplete index)
      | second :: rest =>
        if !maySecond first second then .error (.invalid 1 index)
        else if width = 2 then do
          let after ← decodeUtf8From (index + 2) rest
          return Char.ofNat (first.toNat % 32 * 64 + payload second) :: after
        else
          match rest with
          | [] => .error (.incomplete index)
          | third :: rest =>
            if !isContinuation third then .error (.invalid 2 index)
            else if width = 3 then do
              let after ← decodeUtf8From (index + 3) rest
              return Char.ofNat
                ((first.toNat % 16 * 64 + payload second) * 64 + payload third) :: after
            else
              match rest with
              | [] => .error (.incomplete index)
              | fourth :: rest =>
                if !isContinuation fourth then .error (.invalid 3 index)
                else do
                  let after ← decodeUtf8From (index + 4) rest
                  return Char.ofNat (((first.toNat % 8 * 64 + payload second) * 64 +
                    payload third) * 64 + payload fourth) :: after

/-- The text that `bytes` hold in UTF-8. -/
def decodeUtf8 (bytes : List UInt8) : Except Utf8Fault String :=
  (decodeUtf8From 0 bytes).map String.ofList

end BlogOperator.Text
