import BlogOperator.Text.Blank
import BlogOperator.Time.Instant

/-!
# Reading a written time

`readInstant` reads a date, a time of day and an offset from universal time. It is lenient about
blanks around the parts and about the letters, and exact about digits: a field takes at most as
many as its width, except that a signed year takes all there are. `TimeFault` says what was wrong.
-/

set_option autoImplicit false

namespace BlogOperator.Time

open BlogOperator.Text

/-- Why a text is not a time. -/
inductive TimeFault where
  /-- A character that cannot stand where it does. -/
  | invalid
  /-- The text ends too early. -/
  | tooShort
  /-- The text goes on after the time. -/
  | tooLong
  /-- A number that its field cannot hold, or a date the calendar does not have. -/
  | outOfRange
  /-- The offset moves the time out of the calendar. -/
  | impossible
  deriving DecidableEq, Repr

/-- The sentence that reports a fault. -/
def TimeFault.message : TimeFault → String
  | .invalid => "input contains invalid characters"
  | .tooShort => "premature end of input"
  | .tooLong => "trailing input"
  | .outOfRange => "input is out of range"
  | .impossible => "no possible date and time matching input"

/-- A reader of the front of a text: what it read, and the text that is left. -/
abbrev Prefixed (α : Type) := List Char → Except TimeFault (α × List Char)

/-- The value of a decimal digit. -/
def digitValue (character : Char) : Nat :=
  character.toNat - '0'.toNat

/-- The largest number that a field may hold before its own range is looked at. -/
def fieldLimit : Nat := 9223372036854775807

/-- The value of a row of digits, unless it is beyond every field. -/
def fieldValue (digits : List Char) : Except TimeFault Nat :=
  let value := digits.foldl (fun value digit ↦ value * 10 + digitValue digit) 0
  if value ≤ fieldLimit then .ok value else .error .outOfRange

/-- At least one digit and at most `width` of them. -/
def readNumber (width : Option Nat) : Prefixed Nat := fun characters ↦ do
  let allowed := match width with
    | some width => characters.take width
    | none => characters
  let digits := allowed.takeWhile Char.isDigit
  if characters.isEmpty then .error .tooShort
  else if digits.isEmpty then .error .invalid
  else return (← fieldValue digits, characters.drop digits.length)

/-- A number of at most two digits within a range, blanks before it skipped. -/
def readField (low high : Nat) : Prefixed Nat := fun characters ↦ do
  let (value, rest) ← readNumber (some 2) (characters.dropWhile isBlank)
  if low ≤ value && value ≤ high then .ok (value, rest) else .error .outOfRange

/-- A year: four digits at most, or a sign and any number of them. -/
def readYear : Prefixed Int := fun characters ↦ do
  let (year, rest) ← match characters.dropWhile isBlank with
    | '-' :: rest => do
      let (size, rest) ← readNumber none rest
      pure (-(size : Int), rest)
    | '+' :: rest => do
      let (size, rest) ← readNumber none rest
      pure ((size : Int), rest)
    | other => do
      let (size, rest) ← readNumber (some 4) other
      pure ((size : Int), rest)
  if -2147483648 ≤ year && year ≤ 2147483647 then .ok (year, rest) else .error .outOfRange

/-- One given character, blanks before it skipped. -/
def readMark (mark : Char) : Prefixed Unit := fun characters ↦
  match characters.dropWhile isBlank with
  | [] => .error .tooShort
  | first :: rest => if first = mark then .ok ((), rest) else .error .invalid

/-- The fraction of a second after a point: nine digits count, any further ones are skipped. -/
def readFraction : Prefixed Nat := fun characters ↦
  match characters with
  | '.' :: rest => do
    let (value, left) ← readNumber (some 9) rest
    let places := rest.length - left.length
    return (value * Nat.pow 10 (9 - places), left.dropWhile Char.isDigit)
  | _ => .ok (0, characters)

/-- The letter or blank between date and time. -/
def readDivider : Prefixed Unit
  | [] => .error .tooShort
  | first :: rest =>
    if first = 'T' ∨ first = 't' ∨ first = ' ' then .ok ((), rest) else .error .invalid

/-- The number of bytes a text takes in UTF-8. -/
def byteCount (characters : List Char) : Nat :=
  (String.ofList characters).utf8ByteSize

/-- The first two characters of a text of at least two bytes. -/
def readPair : Prefixed (Char × Char) := fun characters ↦
  if byteCount characters < 2 then .error .tooShort
  else
    match characters with
    | first :: second :: rest => .ok ((first, second), rest)
    | _ => .error .invalid

/-- The two digits of an offset's hours. -/
def readOffsetHours : Prefixed Nat := fun characters ↦ do
  let ((first, second), rest) ← readPair characters
  if first.isDigit && second.isDigit then
    .ok (digitValue first * 10 + digitValue second, rest)
  else .error .invalid

/-- The two digits of an offset's minutes, below sixty. -/
def readOffsetMinutes : Prefixed Nat := fun characters ↦ do
  let ((first, second), rest) ← readPair characters
  if first.isDigit && second.isDigit then
    if digitValue first ≤ 5 then .ok (digitValue first * 10 + digitValue second, rest)
    else .error .outOfRange
  else .error .invalid

/-- An offset from universal time in seconds: `Z`, `UTC` in any case, or a sign with hours and
minutes. -/
def readOffset : Prefixed Int := fun characters ↦
  let amount (sign : Int) (rest : List Char) : Except TimeFault (Int × List Char) := do
    let (hours, rest) ← readOffsetHours rest
    let (minutes, rest) ← readOffsetMinutes
      (rest.dropWhile fun character ↦ character == ':' || isBlank character)
    return (sign * (hours * 3600 + minutes * 60), rest)
  if (characters.take 3).map Char.toUpper = ['U', 'T', 'C'] then .ok (0, characters.drop 3)
  else
    match characters with
    | [] => .error .tooShort
    | 'Z' :: rest => .ok (0, rest)
    | 'z' :: rest => .ok (0, rest)
    | '+' :: rest => amount 1 rest
    | '-' :: rest => amount (-1) rest
    | '\u2212' :: rest => amount (-1) rest
    | _ => .error .invalid

/-- Reads a whole text as a time. A second sixty is the leap second of its minute. The date is
checked before the offset, and the offset before the sum of both. -/
def readInstant (text : String) : Except TimeFault Instant := do
  let (year, rest) ← readYear text.toList
  let ((), rest) ← readMark '-' rest
  let (month, rest) ← readField 1 12 rest
  let ((), rest) ← readMark '-' rest
  let (day, rest) ← readField 1 31 rest
  let ((), rest) ← readDivider rest
  let (hour, rest) ← readField 0 23 rest
  let ((), rest) ← readMark ':' rest
  let (minute, rest) ← readField 0 59 rest
  let ((), rest) ← readMark ':' rest
  let (second, rest) ← readField 0 60 rest
  let (fraction, rest) ← readFraction rest
  let (offset, rest) ← readOffset (rest.dropWhile isBlank)
  if !(rest.dropWhile isBlank).isEmpty then throw .tooLong
  let date : Date := ⟨year, month, day⟩
  if !date.isValid || !(-262143 ≤ year && year ≤ 262142) then throw .outOfRange
  if !(-86400 < offset && offset < 86400) then throw .outOfRange
  let leap := if second = 60 then 1 else 0
  let seconds : Int := date.days * 86400 + hour * 3600 + minute * 60 + (second - leap : Nat)
  match Instant.mk? (seconds - offset) (fraction + leap * nanosPerSecond) with
  | some instant => return instant
  | none => throw .impossible

end BlogOperator.Time
