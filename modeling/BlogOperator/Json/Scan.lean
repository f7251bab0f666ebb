import BlogOperator.Json.Fault

/-!
# Scanning a text

A `Cursor` stands somewhere in a text: it holds the characters ahead, its `Position`, and how many
lists and objects may still be opened. A `Scan` moves the cursor and gives a value or a
`Misreading`; the cursor stays where the misreading was noticed, because a fault without a place of
its own is placed by `settled` where the cursor stands when the value around it has been closed.
-/

set_option autoImplicit false

namespace BlogOperator.Json

/-- The place `bytes` further on, the characters ahead being given. It may lie inside a character
of several bytes. -/
def Position.after : (bytes : Nat) → List Char → Position → Position
  | 0, _, position => position
  | _, [], position => position
  | bytes + 1, '\n' :: rest, position => after bytes rest ⟨position.line + 1, 0⟩
  | bytes + 1, character :: rest, position =>
    let width := character.utf8Size
    if bytes + 1 < width then ⟨position.line, position.column + (bytes + 1)⟩
    else after (bytes + 1 - width) rest ⟨position.line, position.column + width⟩

/-- A place in a text that is being read. -/
structure Cursor where
  rest : List Char
  position : Position
  levels : Nat

/-- How deeply lists and objects may be nested, the innermost level being refused. -/
def nestingLimit : Nat := 128

/-- The front of a text. -/
def Cursor.start (text : String) : Cursor :=
  ⟨text.toList, ⟨1, 0⟩, nestingLimit⟩

/-- The bytes that characters take in UTF-8. -/
def byteLength (characters : List Char) : Nat :=
  (String.ofList characters).utf8ByteSize

/-- The cursor `count` characters further on. -/
def Cursor.advance (count : Nat) (cursor : Cursor) : Cursor :=
  { cursor with
    rest := cursor.rest.drop count
    position := cursor.position.after (byteLength (cursor.rest.take count)) cursor.rest }

/-- A step through a text. -/
abbrev Scan (α : Type) := ExceptT Misreading (StateM Cursor) α

namespace Scan

/-! ### Faults and their places -/

/-- Refuses for a reason that has no place yet. -/
def refuse {α : Type} (fault : Fault) : Scan α :=
  throw ⟨fault, none⟩

/-- A value, or a refusal that has no place yet. -/
def ofExcept {α : Type} : Except Fault α → Scan α
  | .ok value => pure value
  | .error fault => refuse fault

/-- The text is not well formed before the cursor. -/
def malformedHere {α : Type} (fault : SyntaxFault) : Scan α := do
  throw ⟨.malformed fault, some (← get).position⟩

/-- The text is not well formed at the byte after the cursor. -/
def malformedAhead {α : Type} (fault : SyntaxFault) : Scan α := do
  let cursor ← get
  throw ⟨.malformed fault, some (cursor.position.after 1 cursor.rest)⟩

/-- A scan whose misreadings all have a place: by default the one where the cursor is left. -/
def settled {α : Type} (scan : Scan α) : Scan α :=
  tryCatch scan fun misreading ↦ do
    let cursor ← get
    throw { misreading with place := misreading.place.or (some cursor.position) }

/-- What a scan comes to, as a value. -/
def outcome {α : Type} (scan : Scan α) : Scan (Except Misreading α) :=
  ExceptT.lift scan.run

/-! ### Moving on -/

/-- The next character. -/
def peek : Scan (Option Char) :=
  return (← get).rest.head?

/-- Moves past `count` characters. -/
def advance (count : Nat) : Scan Unit :=
  modify (Cursor.advance count)

/-- The characters that may stand between the parts of a text. -/
def isSpace (character : Char) : Bool :=
  character == ' ' || character == '\n' || character == '\t' || character == '\u000d'

/-- Moves past spaces and shows the character after them. -/
def skipSpace : Scan (Option Char) := do
  advance ((← get).rest.takeWhile isSpace).length
  peek

/-- Moves past the digits ahead and gives them. -/
def digits : Scan (List Char) := do
  let found := (← get).rest.takeWhile Char.isDigit
  advance found.length
  return found

/-- The rest of a word whose first character has been passed. -/
def word : List Char → Scan Unit
  | [] => pure ()
  | expected :: more => do
    match ← peek with
    | none => malformedAhead .unfinishedValue
    | some character =>
      if character = expected then
        advance 1
        word more
      else malformedAhead .wordExpected

/-! ### Lists and objects -/

/-- Opens one more level for the time of a scan. -/
def nested {α : Type} (scan : Scan α) : Scan α := do
  if (← get).levels ≤ 1 then malformedAhead .nestedTooDeep
  modify fun cursor ↦ { cursor with levels := cursor.levels - 1 }
  let value ← scan
  modify fun cursor ↦ { cursor with levels := cursor.levels + 1 }
  return value

/-- Moves to the end of a list. -/
def endList : Scan Unit := do
  match ← skipSpace with
  | some ']' => advance 1
  | some ',' =>
    advance 1
    match ← skipSpace with
    | some ']' => malformedAhead .trailingComma
    | _ => malformedAhead .trailingCharacters
  | some _ => malformedAhead .trailingCharacters
  | none => malformedAhead .unfinishedList

/-- Moves to the end of an object. -/
def endObject : Scan Unit := do
  match ← skipSpace with
  | some '\x7d' => advance 1
  | some ',' => malformedAhead .trailingComma
  | some _ => malformedAhead .trailingCharacters
  | none => malformedAhead .unfinishedObject

/-- Scans what a bracket opens and then moves to its end in any case, so that a fault without a
place is placed behind it. A fault inside comes before a missing end. -/
def enclosed {α : Type} (body : Scan α) (ending : Scan Unit) : Scan α := do
  let inner ← nested (advance 1 *> outcome body)
  let outer ← outcome ending
  match inner, outer with
  | .ok value, .ok () => return value
  | .error misreading, _ => throw misreading
  | _, .error misreading => throw misreading

/-- Whether a list has a further item; `first` before its first one. -/
def hasItem (first : Bool) : Scan Bool := do
  match ← skipSpace with
  | none => malformedAhead .unfinishedList
  | some ']' => return false
  | some ',' =>
    if first then return true
    advance 1
    if (← skipSpace) = some ']' then malformedAhead .trailingComma
    return true
  | some _ => if first then return true else malformedAhead .listSeparatorExpected

/-- Whether an object has a further member, whose name is then ahead; `first` before its first
one. -/
def hasMember (first : Bool) : Scan Bool := do
  match ← skipSpace with
  | none => malformedAhead .unfinishedObject
  | some '\x7d' => return false
  | some '"' => if first then return true else malformedAhead .objectSeparatorExpected
  | some ',' =>
    if first then malformedAhead .nameExpected
    advance 1
    match ← skipSpace with
    | some '"' => return true
    | some '\x7d' => malformedAhead .trailingComma
    | some _ => malformedAhead .nameExpected
    | none => malformedAhead .unfinishedValue
  | some _ =>
    malformedAhead (if first then .nameExpected else .objectSeparatorExpected)

/-- The colon between a member's name and its value. -/
def colon : Scan Unit := do
  match ← skipSpace with
  | some ':' => advance 1
  | some _ => malformedAhead .colonExpected
  | none => malformedAhead .unfinishedObject

/-- Repeats a step as long as there is more. A step moves the cursor, so that the characters ahead
bound the number of steps. -/
def whileMore {α : Type} (more : Bool → Scan Bool) (step : α → Scan α) :
    (bound : Nat) → (first : Bool) → α → Scan α
  | 0, _, value => pure value
  | bound + 1, first, value => do
    if ← more first then whileMore more step bound false (← step value)
    else return value

/-- Repeats a step for every further entry of a list or object. -/
def repeated {α : Type} (more : Bool → Scan Bool) (step : α → Scan α) (start : α) : Scan α := do
  whileMore more step ((← get).rest.length + 1) true start

end Scan

end BlogOperator.Json
