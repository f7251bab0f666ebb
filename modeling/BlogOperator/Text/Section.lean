import BlogOperator.Text.Base64
import BlogOperator.Text.Blank
import BlogOperator.Text.Quoted

/-!
# Sections

A `Section` is a row of bytes in base 64 between two lines that hold its label. Sections are read
line by line: a line that begins a section begins one anywhere, even within another one, and what
stands outside of sections counts for nothing. `sections` are those whose labels are known, up to
the first fault. Their base 64 is read leniently: blanks do not count, padding may be left out, and
the last digit may say more than there is room for.
-/

set_option autoImplicit false

namespace BlogOperator.Text

/-! ### Lenient base 64 -/

/-- Why bytes are not in base 64, read leniently. -/
inductive DigitFault where
  | invalidCharacter (byte : UInt8)
  /-- Padding before the last group of digits. -/
  | prematurePadding
  | invalidTrailingPadding
  deriving DecidableEq, Repr

/-- The phrase that reports a fault. -/
def DigitFault.message : DigitFault → String
  | .invalidCharacter byte => s!"InvalidCharacter({byte})"
  | .prematurePadding => "PrematurePadding"
  | .invalidTrailingPadding => "InvalidTrailingPadding"

/-- The value of a digit, or nothing for padding. -/
def paddedDigit? (byte : UInt8) : Except DigitFault (Option Nat) :=
  if byte = base64Padding then .ok none
  else
    match base64Digit? byte with
    | some digit => .ok (some digit)
    | none => .error (.invalidCharacter byte)

/-- The bytes of digits between which there is no padding. -/
def unpadded (digits : List (Option Nat)) : Except DigitFault (List UInt8) :=
  match digits.mapM id with
  | some digits => .ok (base64Bytes digits)
  | none => .error .prematurePadding

/-- The bytes of up to four digits at the end. -/
def lastBytes : List (Option Nat) → Except DigitFault (List UInt8)
  | [] => .ok []
  | [some first, some second] => .ok (base64Bytes [first, second])
  | [some first, some second, none, none] => .ok (base64Bytes [first, second])
  | [some first, some second, some third] => .ok (base64Bytes [first, second, third])
  | [some first, some second, some third, none] => .ok (base64Bytes [first, second, third])
  | [some first, some second, some third, some fourth] =>
    .ok (base64Bytes [first, second, third, fourth])
  | _ => .error .invalidTrailingPadding

/-- The bytes of the digits ahead. They are taken eight at a time, so that padding in the midst of
them is noticed when the next digit has been read. -/
def lenientBytes : (waiting : List (Option Nat)) → List UInt8 → Except DigitFault (List UInt8)
  | waiting, [] => do
    if 4 < waiting.length then
      return (← unpadded (waiting.take 4)) ++ (← lastBytes (waiting.drop 4))
    else lastBytes waiting
  | waiting, byte :: rest => do
    let digit ← paddedDigit? byte
    if waiting.length < 8 then lenientBytes (waiting ++ [digit]) rest
    else
      let first ← unpadded (waiting.take 4)
      let second ← unpadded (waiting.drop 4)
      return first ++ second ++ (← lenientBytes [digit] rest)

/-- The bytes that others stand for in base 64, read leniently. -/
def decodeLeniently (bytes : List UInt8) : Except DigitFault (List UInt8) :=
  lenientBytes [] (bytes.filter (!isBlankByte ·))

/-! ### Lines -/

/-- The lines of bytes, each with the byte that ends it: a line feed or a carriage return. -/
def endedLines : List UInt8 → List (List UInt8)
  | [] => []
  | byte :: rest =>
    if byte = 0x0a || byte = 0x0d then [byte] :: endedLines rest
    else
      match endedLines rest with
      | [] => [[byte]]
      | line :: lines => (byte :: line) :: lines

/-- What a line begins with that begins a section. -/
def sectionStart : List UInt8 := "-----BEGIN ".toUTF8.data.toList

/-- What a line begins with that ends a section. -/
def sectionEnd : List UInt8 := "-----END ".toUTF8.data.toList

/-- The dashes around a label. -/
def dashes : List UInt8 := List.replicate 5 0x2d

/-- The label in a line that begins a section: it goes up to the first of the dashes at the end of
the line, of which there must be five. Blanks between and behind them do not count. -/
def label? (line : List UInt8) : Option (List UInt8) :=
  let ending := (line.reverse.takeWhile fun byte ↦
    byte = 0x2d || byte = 0x20 || byte = 0x0a || byte = 0x0d).reverse
  if ending.count 0x2d = 5 then
    let size := line.length - (ending.dropWhile (· ≠ 0x2d)).length
    some ((line.take size).drop sectionStart.length)
  else none

/-! ### Sections -/

/-- What a section may hold. -/
inductive SectionKind where
  | certificate
  | publicKey
  | rsaKey
  | wrappedKey
  | curveKey
  | revocations
  | request
  | encryptedHello
  deriving DecidableEq, Repr

/-- The labels of sections. -/
def sectionLabels : List (List UInt8 × SectionKind) := [
  ("CERTIFICATE".toUTF8.data.toList, .certificate),
  ("PUBLIC KEY".toUTF8.data.toList, .publicKey),
  ("RSA PRIVATE KEY".toUTF8.data.toList, .rsaKey),
  ("PRIVATE KEY".toUTF8.data.toList, .wrappedKey),
  ("EC PRIVATE KEY".toUTF8.data.toList, .curveKey),
  ("X509 CRL".toUTF8.data.toList, .revocations),
  ("CERTIFICATE REQUEST".toUTF8.data.toList, .request),
  ("ECHCONFIG".toUTF8.data.toList, .encryptedHello)]

/-- A section of a known kind. -/
structure Section where
  kind : SectionKind
  contents : List UInt8
  deriving DecidableEq, Repr

/-- Why sections cannot be read. -/
inductive SectionFault where
  | illegalStart (line : List UInt8)
  /-- The text ends within a section with a label. -/
  | missingEnd (label : List UInt8)
  | invalidData (fault : DigitFault)
  deriving DecidableEq, Repr

/-- Bytes as a list of numbers. -/
def byteNumbers (bytes : List UInt8) : String :=
  "[" ++ ", ".intercalate (bytes.map fun byte ↦ toString byte.toNat) ++ "]"

/-- The sentence that reports a fault. -/
def SectionFault.message : SectionFault → String
  | .illegalStart line => s!"illegal section start: {byteNumbers line}"
  | .missingEnd label => s!"missing section end marker: {byteNumbers label}"
  | .invalidData fault => s!"base64 decode error: {fault.message}"

/-- All that is known of a fault, part by part. -/
def SectionFault.details : SectionFault → String
  | .illegalStart line => "IllegalSectionStart \x7b line: " ++ byteNumbers line ++ " \x7d"
  | .missingEnd label => "MissingSectionEnd \x7b end_marker: " ++ byteNumbers label ++ " \x7d"
  | .invalidData fault => s!"Base64Decode({quoted fault.message})"

/-- The section that has begun, if one has: its label, and the data that has been read. Data remains
where a section begins within another one. -/
structure SectionReader where
  label : Option (List UInt8) := none
  data : List UInt8 := []

/-- Whether a line ends the section with a label. -/
def endsSection (label line : List UInt8) : Bool :=
  (sectionEnd ++ label ++ dashes).isPrefixOf line

/-- The sections in lines, up to the first fault. -/
def sectionsFrom (reader : SectionReader) : List (List UInt8) → List Section × Option SectionFault
  | [] => ([], reader.label.map .missingEnd)
  | line :: lines =>
    if sectionStart.isPrefixOf line then
      match label? line with
      | some label => sectionsFrom { reader with label } lines
      | none => ([], some (.illegalStart line))
    else
      match reader.label with
      | none => sectionsFrom reader lines
      | some label =>
        if endsSection label line then
          match sectionLabels.lookup label with
          | none => sectionsFrom {} lines
          | some kind =>
            match decodeLeniently reader.data with
            | .error fault => ([], some (.invalidData fault))
            | .ok contents =>
              let (sections, fault) := sectionsFrom {} lines
              (⟨kind, contents⟩ :: sections, fault)
        else sectionsFrom { reader with data := reader.data ++ line } lines

/-- The sections in bytes, up to the first fault. -/
def sections (bytes : List UInt8) : List Section × Option SectionFault :=
  sectionsFrom {} (endedLines bytes)

end BlogOperator.Text
