import BlogOperator.Text.Base64
import BlogOperator.Text.Blank
import BlogOperator.Text.Utf8

/-!
# Armored blocks

An armored text holds blocks of bytes in base 64, each between a line that begins it and a line that
ends it, with the label of the block on either of them. What stands between blocks counts for
nothing, and neither does a block that never ends.
-/

set_option autoImplicit false

namespace BlogOperator.Text

/-- Why an armored block cannot be read. -/
inductive ArmorFault where
  | missingLabel
  | missingEndLabel
  | differentLabels (first last : String)
  | invalidData (fault : Base64Fault)
  /-- A line before an empty one that is no header. -/
  | invalidHeader (line : String)
  | notText (fault : Utf8Fault)
  deriving DecidableEq, Repr

namespace ArmorFault

/-- The sentence that reports a fault. -/
def message : ArmorFault → String
  | missingLabel => "missing BEGIN tag"
  | missingEndLabel => "missing END tag"
  | differentLabels first last => s!"mismatching BEGIN (\"{first}\") and END (\"{last}\") tags"
  | invalidData fault => s!"invalid data: {fault.message}"
  | invalidHeader line => s!"invalid header: {line}"
  | notText fault => s!"invalid utf-8 value: {fault.message}"

/-- The sentence that reports what is behind a fault, if anything is. -/
def cause? : ArmorFault → Option String
  | invalidData fault => some fault.message
  | notText fault => some fault.message
  | _ => none

end ArmorFault

/-- An armored block. -/
structure ArmorBlock where
  label : String
  contents : List UInt8
  deriving DecidableEq, Repr

/-- The bytes of a text. -/
def bytesOf (text : String) : List UInt8 :=
  text.toUTF8.data.toList

/-- The bytes before a marker and those after it. A marker is looked for without going back, so that
it is overlooked behind a part of itself; `left` is what is still to come of it. -/
def cutFrom (marker : List UInt8) : (left : List UInt8) → (passed : List UInt8) → List UInt8 →
    Option (List UInt8 × List UInt8)
  | [], passed, rest => some ((passed.drop marker.length).reverse, rest)
  | _, _, [] => none
  | wanted :: left, passed, byte :: rest =>
    cutFrom marker (if byte = wanted then left else marker) (byte :: passed) rest

/-- The bytes before a marker and those after it. -/
def cut (marker : String) (bytes : List UInt8) : Option (List UInt8 × List UInt8) :=
  cutFrom (bytesOf marker) (bytesOf marker) [] bytes

/-- Bytes without the blanks they begin with. -/
def skipBlankBytes (bytes : List UInt8) : List UInt8 :=
  bytes.dropWhile isBlankByte

/-- A block as it is written: its labels, its headers and its data. -/
structure WrittenBlock where
  first : List UInt8
  headers : List UInt8
  data : List UInt8
  last : List UInt8

/-- The block that comes first, and what follows it. -/
def writtenBlock? (bytes : List UInt8) : Option (WrittenBlock × List UInt8) := do
  let (_, bytes) ← cut "-----BEGIN " bytes
  let (first, bytes) ← cut "-----" bytes
  let (body, bytes) ← cut "-----END " (skipBlankBytes bytes)
  let (last, bytes) ← cut "-----" bytes
  let (headers, data) := ((cut "\n\n" body).or (cut "\u000d\n\u000d\n" body)).getD ([], body)
  return (⟨first, headers, data, last⟩, skipBlankBytes bytes)

/-- The lines of a text. -/
def linesOf (text : String) : List String :=
  let lines := text.splitOn "\n"
  let lines := if lines.getLast? = some "" then lines.dropLast else lines
  lines.map fun line ↦
    let characters := line.toList
    String.ofList
      (if characters.getLast? = some '\u000d' then characters.dropLast else characters)

/-- Reads a block. -/
def WrittenBlock.read (block : WrittenBlock) : Except ArmorFault ArmorBlock := do
  let text (bytes : List UInt8) : Except ArmorFault String :=
    (decodeUtf8 bytes).mapError .notText
  let first ← text block.first
  if first.isEmpty then throw .missingLabel
  let last ← text block.last
  if last.isEmpty then throw .missingEndLabel
  if first ≠ last then throw (.differentLabels first last)
  let data := (← text block.data).toList.filter (!isBlank ·)
  let contents ← (decodeBase64 (bytesOf (String.ofList data))).mapError .invalidData
  (linesOf (← text block.headers)).forM fun line ↦
    if line.toList.contains ':' then .ok () else .error (.invalidHeader line)
  return ⟨first, contents⟩

/-- The blocks ahead. -/
def armorBlocksFrom : (fuel : Nat) → List UInt8 → Except ArmorFault (List ArmorBlock)
  | 0, _ => .ok []
  | fuel + 1, bytes =>
    match writtenBlock? bytes with
    | none => .ok []
    | some (block, rest) => do
      let block ← block.read
      return block :: (← armorBlocksFrom fuel rest)

/-- The blocks of an armored text. -/
def armorBlocks (bytes : List UInt8) : Except ArmorFault (List ArmorBlock) :=
  armorBlocksFrom (bytes.length + 1) bytes

end BlogOperator.Text
