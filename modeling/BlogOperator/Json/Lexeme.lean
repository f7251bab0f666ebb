import BlogOperator.Json.Scan
import BlogOperator.Number.Digit
import BlogOperator.Number.Shortest

/-!
# Words of a text

Numbers and quoted texts, read to their ends, and `skipValue`, which moves past a value that
nobody asked for. A skipped value is checked less strictly than one that is read: its nesting is
not limited and the escapes in its texts need not make characters.
-/

set_option autoImplicit false

namespace BlogOperator.Json.Scan

open BlogOperator.Number BlogOperator.Time

/-! ### Numbers -/

/-- Appends digits to a number as long as it stays below `limit`; the digits from the first that
does not fit are left. -/
def accumulate (limit : Nat) : (value : Nat) → List Char → Nat × List Char
  | value, [] => (value, [])
  | value, digit :: more =>
    let longer := value * 10 + digitValue digit
    if longer < limit then accumulate limit longer more else (value, digit :: more)

/-- The decimal with this significand and power of ten. -/
def decimal (negative : Bool) (significand : Nat) (exponent : Int) : Scan Number :=
  match Decimal.ofScientific negative significand exponent with
  | some value => pure (.decimal value)
  | none => malformedHere .numberTooLarge

/-- A power of ten from its letter on, added to the one the digits before it have. -/
def power (negative : Bool) (significand : Nat) (exponent : Int) : Scan Number := do
  advance 1
  let down := (← peek) = some '-'
  if down || (← peek) = some '+' then advance 1
  match ← peek with
  | none => malformedAhead .unfinishedValue
  | some character =>
    if !character.isDigit then malformedAhead .invalidNumber
    else
      let ahead := (← get).rest.takeWhile Char.isDigit
      let (size, left) := accumulate 2147483648 0 ahead
      if left.isEmpty then
        advance ahead.length
        decimal negative significand (if down then exponent - size else exponent + size)
      else if significand ≠ 0 && !down then
        advance (ahead.length - left.length + 1)
        malformedHere .numberTooLarge
      else
        advance ahead.length
        decimal negative 0 0

/-- What may follow the digits: a power of ten or nothing. -/
def afterDigits (negative : Bool) (significand : Nat) (exponent : Int) : Scan Number := do
  match ← peek with
  | some 'e' => power negative significand exponent
  | some 'E' => power negative significand exponent
  | _ => decimal negative significand exponent

/-- A fraction from its point on. Digits that do not fit into the significand are dropped. -/
def fraction (negative : Bool) (significand : Nat) (exponent : Int) : Scan Number := do
  advance 1
  let found ← digits
  let (longer, left) := accumulate UInt64.size significand found
  if found.isEmpty then
    if (← peek).isSome then malformedAhead .invalidNumber
    else malformedAhead .unfinishedValue
  else afterDigits negative longer (exponent - (found.length - left.length : Nat))

/-- A whole number that nothing follows. One that 64 bits cannot hold, and zero with a sign, is a
decimal. -/
def whole (negative : Bool) (significand : Nat) : Scan Number :=
  if !negative then pure (.integer significand)
  else if significand = 0 || 9223372036854775808 < significand then decimal true significand 0
  else pure (.integer (-significand))

/-- The digits of a number and what follows them. Digits that do not fit into 64 bits count as
places. -/
def unsigned (negative : Bool) : Scan Number := do
  match ← peek with
  | none => malformedAhead .unfinishedValue
  | some character =>
    if !character.isDigit then malformedAhead .invalidNumber
    else if character = '0' then
      advance 1
      if ((← peek).map Char.isDigit).getD false then malformedAhead .invalidNumber
      match ← peek with
      | some '.' => fraction negative 0 0
      | some 'e' => power negative 0 0
      | some 'E' => power negative 0 0
      | _ => whole negative 0
    else
      let found ← digits
      let (significand, left) := accumulate UInt64.size 0 found
      match ← peek with
      | some '.' => fraction negative significand left.length
      | some 'e' => power negative significand left.length
      | some 'E' => power negative significand left.length
      | _ =>
        if left.isEmpty then whole negative significand
        else decimal negative significand left.length

/-- A number, its sign included. -/
def number : Scan Number := do
  if (← peek) = some '-' then
    advance 1
    unsigned true
  else unsigned false

/-! ### Texts -/

/-- The four hexadecimal digits of an escape. Four bytes are taken in any case. -/
def fourDigits : Scan Nat := do
  let cursor ← get
  let ahead := cursor.rest.take 4
  if byteLength ahead < 4 then
    advance cursor.rest.length
    malformedHere .unfinishedText
  else
    match ahead.mapM (digit? 16) with
    | some values =>
      advance 4
      return values.foldl (fun value digit ↦ value * 16 + digit) 0
    | none =>
      throw ⟨.malformed .invalidEscape, some (cursor.position.after 4 cursor.rest)⟩

/-- One given character in the middle of a pair of escapes. -/
def pairMark (mark : Char) : Scan Unit := do
  match ← peek with
  | none => malformedHere .unfinishedText
  | some character =>
    if character = mark then advance 1 else malformedAhead .unfinishedEscape

/-- The character of a numeric escape. Numbers of the first surrogate range take a second escape,
which must be of the second range. -/
def numericEscape : Scan Char := do
  let first ← fourDigits
  if 0xdc00 ≤ first && first ≤ 0xdfff then malformedHere .loneSurrogate
  else if 0xd800 ≤ first && first ≤ 0xdbff then
    pairMark '\\'
    pairMark 'u'
    let second ← fourDigits
    if 0xdc00 ≤ second && second ≤ 0xdfff then
      return Char.ofNat (0x10000 + (first - 0xd800) * 0x400 + (second - 0xdc00))
    else malformedHere .loneSurrogate
  else return Char.ofNat first

/-- The character that a letter after a backslash stands for. -/
def simpleEscape? : Char → Option Char
  | '"' => some '"'
  | '\\' => some '\\'
  | '/' => some '/'
  | 'b' => some '\u0008'
  | 'f' => some '\u000c'
  | 'n' => some '\n'
  | 'r' => some '\u000d'
  | 't' => some '\t'
  | _ => none

/-- What follows a backslash, numeric escapes being read by `numeric`. -/
def escape {α : Type} (numeric : Scan α) (simple : Char → α) : Scan α := do
  match ← peek with
  | none => malformedHere .unfinishedText
  | some 'u' =>
    advance 1
    numeric
  | some character =>
    match simpleEscape? character with
    | some meant =>
      advance 1
      return simple meant
    | none => malformedAhead .invalidEscape

/-- The characters of a text up to its closing quote, in reverse. -/
def textBody : (bound : Nat) → List Char → Scan (List Char)
  | 0, read => pure read
  | bound + 1, read => do
    match ← peek with
    | none => malformedHere .unfinishedText
    | some '"' =>
      advance 1
      return read
    | some '\\' =>
      advance 1
      textBody bound ((← escape numericEscape id) :: read)
    | some character =>
      if character < ' ' then malformedAhead .controlCharacter
      else
        advance 1
        textBody bound (character :: read)

/-- A text whose opening quote is ahead. -/
def text : Scan String := do
  advance 1
  let read ← textBody ((← get).rest.length + 1) []
  return String.ofList read.reverse

/-! ### Values that nobody asked for -/

/-- Moves to the end of a text whose opening quote has been passed. -/
def skipTextBody : (bound : Nat) → Scan Unit
  | 0 => pure ()
  | bound + 1 => do
    match ← peek with
    | none => malformedHere .unfinishedText
    | some '"' => advance 1
    | some '\\' =>
      advance 1
      escape (fourDigits *> pure ()) (fun _ ↦ ())
      skipTextBody bound
    | some character =>
      if character < ' ' then malformedHere .controlCharacter
      else
        advance 1
        skipTextBody bound

/-- Moves past a text whose opening quote is ahead. -/
def skipText : Scan Unit := do
  advance 1
  skipTextBody ((← get).rest.length + 1)

/-- Moves past a power of ten. -/
def skipPower : Scan Unit := do
  advance 1
  if (← peek) = some '+' || (← peek) = some '-' then advance 1
  if (← digits).isEmpty then malformedAhead .invalidNumber

/-- Moves past a power of ten, if there is one. -/
def skipAfterDigits : Scan Unit := do
  if (← peek) = some 'e' || (← peek) = some 'E' then skipPower

/-- Moves past a number. -/
def skipNumber : Scan Unit := do
  if (← peek) = some '-' then advance 1
  match ← peek with
  | some '0' =>
    advance 1
    if ((← peek).map Char.isDigit).getD false then malformedAhead .invalidNumber
  | _ => if (← digits).isEmpty then malformedAhead .invalidNumber
  if (← peek) = some '.' then
    advance 1
    if (← digits).isEmpty then malformedAhead .invalidNumber
  skipAfterDigits

/-- A list or an object that has been opened. -/
inductive Bracket where
  | list
  | object
  deriving DecidableEq, Repr

/-- What is looked for next while values are skipped: a value, or what may stand after an opening
bracket (`entry false`) or after a value (`entry true`). -/
inductive Awaited where
  | value
  | entry (after : Bool)
  deriving DecidableEq, Repr

/-- Moves past a member's name and its colon. -/
def skipName : Scan Unit := do
  match ← skipSpace with
  | some '"' => skipText
  | some _ => malformedAhead .nameExpected
  | none => malformedAhead .unfinishedObject
  colon

/-- Moves to the next value inside a bracket. -/
def enter : Bracket → Scan Unit
  | .list => pure ()
  | .object => skipName

/-- The fault of a text that ends inside a bracket. -/
def Bracket.unfinished : Bracket → SyntaxFault
  | .list => .unfinishedList
  | .object => .unfinishedObject

/-- The fault of an entry that is followed by something other than a comma or the end. -/
def Bracket.separatorExpected : Bracket → SyntaxFault
  | .list => .listSeparatorExpected
  | .object => .objectSeparatorExpected

/-- The character that closes a bracket. -/
def Bracket.closing : Bracket → Char
  | .list => ']'
  | .object => '\x7d'

/-- Moves past a scalar, or past an opening bracket, which it gives. -/
def skipStart : Scan (Option Bracket) := do
  match ← skipSpace with
  | none => malformedAhead .unfinishedValue
  | some 'n' => advance 1 *> word ['u', 'l', 'l'] *> pure none
  | some 't' => advance 1 *> word ['r', 'u', 'e'] *> pure none
  | some 'f' => advance 1 *> word ['a', 'l', 's', 'e'] *> pure none
  | some '"' => skipText *> pure none
  | some '[' => advance 1 *> pure (some .list)
  | some '\x7b' => advance 1 *> pure (some .object)
  | some character =>
    if character = '-' || character.isDigit then skipNumber *> pure none
    else malformedAhead .valueExpected

/-- Skips until every open bracket is closed, the innermost first. -/
def skipUntilClosed : (bound : Nat) → Awaited → List Bracket → Scan Unit
  | 0, _, _ => pure ()
  | bound + 1, .value, brackets => do
    match ← skipStart with
    | some bracket => skipUntilClosed bound (.entry false) (bracket :: brackets)
    | none => skipUntilClosed bound (.entry true) brackets
  | _ + 1, .entry _, [] => pure ()
  | bound + 1, .entry after, bracket :: brackets => do
    match ← skipSpace with
    | none => malformedAhead bracket.unfinished
    | some character =>
      if character = bracket.closing then
        advance 1
        skipUntilClosed bound (.entry true) brackets
      else if after then
        if character = ',' then
          advance 1
          enter bracket
          skipUntilClosed bound .value (bracket :: brackets)
        else malformedAhead bracket.separatorExpected
      else
        enter bracket
        skipUntilClosed bound .value (bracket :: brackets)

/-- Moves past one value. -/
def skipValue : Scan Unit := do
  skipUntilClosed (2 * (← get).rest.length + 2) .value []

end BlogOperator.Json.Scan
