import BlogOperator.Number.Digit
import BlogOperator.Text.Utf8
import BlogOperator.Yaml.Token

/-!
# Anchors, tags and directives

Scanners of the words that are no part of what a text holds: anchors and the aliases that refer to
them, tags, and the directives in front of a document. Each scanner begins at the sign that
announces its word.
-/

set_option autoImplicit false

namespace BlogOperator.Yaml.Cursor

open BlogOperator.Number

/-! ### Anchors -/

/-- Whether a character may follow an anchor without a gap. -/
def followsAnchor (character : Char) : Bool :=
  ['?', ':', ',', ']', '\x7d', '%', '@', '\u0060'].contains character

/-- The name of an anchor or an alias. -/
def anchor (activity : Activity) (cursor : Cursor) : Except Flaw (String × Cursor) := do
  let start := cursor.place
  let (name, cursor) := (cursor.advance 1).takeWhile isWordCharacter
  if name.isEmpty || !(atGap cursor.rest || cursor.rest.head?.any followsAnchor) then
    cursor.refuse .nameExpected activity start
  else return (String.ofList name, cursor)

/-! ### The octets of tags -/

/-- Whether a character may stand for itself in a tag. In angle brackets a few more may. -/
def isTagCharacter (inAngles : Bool) (character : Char) : Bool :=
  isWordCharacter character || ";/?:@&=+$.!~*'()".toList.contains character ||
    (inAngles && [',', '[', ']'].contains character)

/-- An octet written as a percent sign and two hexadecimal digits. -/
def octet (activity : Activity) (start : Place) (cursor : Cursor) : Except Flaw (UInt8 × Cursor) :=
  match cursor.rest with
  | '%' :: high :: low :: _ =>
    match digit? 16 high, digit? 16 low with
    | some high, some low => .ok (UInt8.ofNat (16 * high + low), cursor.advance 3)
    | _, _ => cursor.refuse .octetExpected activity start
  | _ => cursor.refuse .octetExpected activity start

/-- How many octets follow the first octet of a character, judging by the first alone. -/
def furtherCount? (first : UInt8) : Option Nat :=
  if first < 0x80 then some 0
  else if first < 0xc0 then none
  else if first < 0xe0 then some 1
  else if first < 0xf0 then some 2
  else if first < 0xf8 then some 3
  else none

/-- The further octets of a character. -/
def furtherOctets (activity : Activity) (start : Place) : (count : Nat) → Cursor →
    Except Flaw (List UInt8 × Cursor)
  | 0, cursor => .ok ([], cursor)
  | count + 1, cursor => do
    let (octet, next) ← cursor.octet activity start
    if !Text.isContinuation octet then cursor.refuse .wrongFurtherOctet activity start
    let (octets, cursor) ← furtherOctets activity start count next
    return (octet :: octets, cursor)

/-- The octets of a character that is written by its octets. -/
def writtenOctets (activity : Activity) (start : Place) (cursor : Cursor) :
    Except Flaw (List UInt8 × Cursor) := do
  let (first, next) ← cursor.octet activity start
  match furtherCount? first with
  | none => cursor.refuse .wrongFirstOctet activity start
  | some count =>
    let (octets, cursor) ← furtherOctets activity start count next
    return (first :: octets, cursor)

/-- The octets of a tag, as far as it goes. -/
def octets (inAngles : Bool) (activity : Activity) (start : Place) : (fuel : Nat) → Cursor →
    Except Flaw (List UInt8 × Cursor)
  | 0, cursor => .ok ([], cursor)
  | fuel + 1, cursor =>
    match cursor.rest with
    | [] => .ok ([], cursor)
    | character :: _ =>
      if character = '%' then do
        let (first, cursor) ← cursor.writtenOctets activity start
        let (others, cursor) ← octets inAngles activity start fuel cursor
        return (first ++ others, cursor)
      else if isTagCharacter inAngles character then do
        let (others, cursor) ← octets inAngles activity start fuel (cursor.advance 1)
        return (character.toNat.toUInt8 :: others, cursor)
      else .ok ([], cursor)

/-- The name of a tag, which goes on with what has been read of it as a handle. There must be
something of it, but it ends with an octet of zero. -/
def tagName (inAngles : Bool) (activity : Activity) (start : Place) (handle : List Char)
    (cursor : Cursor) : Except Flaw (List UInt8 × Cursor) := do
  let (octets, cursor) ← octets inAngles activity start (cursor.rest.length + 1) cursor
  if handle.isEmpty && octets.isEmpty then cursor.refuse .tagExpected activity start
  let name := (handle.drop 1).map (fun character ↦ character.toNat.toUInt8) ++ octets
  return (name.takeWhile (· ≠ 0), cursor)

/-! ### Tags -/

/-- A tag handle: a bang, and a name after it that may end in another bang. -/
def handle (activity : Activity) (start : Place) (cursor : Cursor) :
    Except Flaw (List Char × Cursor) :=
  if cursor.sees '!' then
    let (name, cursor) := (cursor.advance 1).takeWhile isWordCharacter
    if cursor.sees '!' then .ok ('!' :: name ++ ['!'], cursor.advance 1)
    else .ok ('!' :: name, cursor)
  else cursor.refuse .bangExpected activity start

/-- Whether a handle ends in a bang other than its first one. -/
def isClosed (handle : List Char) : Bool :=
  (handle.drop 1).getLast? = some '!'

/-- The tag of bangs alone. -/
def bang : List UInt8 := [0x21]

/-- A tag that is written out in angle brackets. -/
def writtenTag (start : Place) (cursor : Cursor) : Except Flaw (Token × Cursor) := do
  let (name, cursor) ← tagName true .tagName start [] (cursor.advance 2)
  if cursor.sees '>' then return (.tag "" name, cursor.advance 1)
  else cursor.refuse .angleExpected .tag start

/-- A tag that begins with a handle. What looks like a handle without an end is a name after the
handle of a single bang, and a bang without a name is a tag by itself. -/
def handledTag (start : Place) (cursor : Cursor) : Except Flaw (Token × Cursor) := do
  let (handle, cursor) ← handle .tag start cursor
  if isClosed handle then
    let (name, cursor) ← tagName false .tagName start [] cursor
    return (.tag (String.ofList handle) name, cursor)
  else
    let (name, cursor) ← tagName false .tagName start handle cursor
    return (if name.isEmpty then .tag "" bang else .tag "!" name, cursor)

/-- A tag; in brackets a comma may follow it. -/
def tag (inBrackets : Bool) (cursor : Cursor) : Except Flaw (Token × Cursor) := do
  let start := cursor.place
  let isWritten := (cursor.rest.drop 1).head? = some '<'
  let (found, cursor) ←
    if isWritten then writtenTag start cursor else handledTag start cursor
  if atGap cursor.rest || (inBrackets && cursor.sees ',') then return (found, cursor)
  else cursor.refuse .gapOrLineEndExpected .tag start

/-! ### Directives -/

/-- A number of a version, of at most nine digits. -/
def versionNumber (start : Place) (cursor : Cursor) : Except Flaw (Nat × Cursor) :=
  let (digits, next) := cursor.takeWhile Char.isDigit
  if 9 < digits.length then
    (cursor.advance 9).refuse .versionTooLong .versionDirective start
  else
    match natural? 10 digits with
    | some number => .ok (number, next)
    | none => next.refuse .versionExpected .versionDirective start

/-- The rest of a directive that gives the version. -/
def version (start : Place) (cursor : Cursor) : Except Flaw (Token × Cursor) := do
  let (major, cursor) ← versionNumber start (cursor.skipWhile isGap)
  if !cursor.sees '.' then cursor.refuse .versionDotExpected .versionDirective start
  let (minor, cursor) ← versionNumber start (cursor.advance 1)
  return (.version major minor, cursor)

/-- The rest of a directive that explains a tag handle. -/
def explanation (start : Place) (cursor : Cursor) : Except Flaw (Token × Cursor) := do
  let (handle, cursor) ← handle .tagDirectiveStart start (cursor.skipWhile isGap)
  if !isClosed handle && handle ≠ ['!'] then
    cursor.refuse .bangExpected .tagDirectiveHandle start
  if !cursor.rest.head?.any isGap then cursor.refuse .gapExpected .tagDirective start
  let (expansion, cursor) ←
    tagName true .tagDirectiveExpansion start [] (cursor.skipWhile isGap)
  if !atGap cursor.rest then cursor.refuse .gapOrLineEndExpected .tagDirective start
  return (.handle (String.ofList handle) expansion, cursor)

/-- A directive with the line it stands on. -/
def directive (cursor : Cursor) : Except Flaw (Token × Cursor) := do
  let start := cursor.place
  let (name, cursor) := (cursor.advance 1).takeWhile isWordCharacter
  if name.isEmpty then cursor.refuse .directiveNameExpected .directive start
  if !atGap cursor.rest then cursor.refuse .unexpectedNameCharacter .directive start
  let (found, cursor) ←
    match String.ofList name with
    | "YAML" => version start cursor
    | "TAG" => explanation start cursor
    | _ => cursor.refuse .unknownDirective .directive start
  let cursor := cursor.skipComment
  if atBreak cursor.rest then return (found, cursor.skipBreak)
  else cursor.refuse .lineEndExpected .directive start

end BlogOperator.Yaml.Cursor
