/-!
# Places in a YAML text

A `Cursor` stands somewhere in a text and holds the characters ahead. Texts are scanned with one
kind of line end: `unified` makes the others the same, so that a character is one step everywhere.
`forbidden?` finds the first character that no text may hold.
-/

set_option autoImplicit false

namespace BlogOperator.Yaml

/-! ### Characters -/

/-- A line end, once line ends have been unified. -/
def isBreak (character : Char) : Bool :=
  character = '\n' || character = '\u2028' || character = '\u2029'

/-- A space or a tab. -/
def isGap (character : Char) : Bool :=
  character = ' ' || character = '\t'

/-- A character of anchors, of tag handles and of the names of directives. -/
def isWordCharacter (character : Char) : Bool :=
  character.isAlphanum || character = '_' || character = '-'

/-- Whether a gap, a line end or the end of the text follows. -/
def atGap (characters : List Char) : Bool :=
  characters.head?.all fun character ↦ isGap character || isBreak character

/-- Whether a line end or the end of the text follows. -/
def atBreak (characters : List Char) : Bool :=
  characters.head?.all isBreak

/-- Brackets and commas, which divide what stands in brackets. -/
def isDivider (character : Char) : Bool :=
  [',', '[', ']', '\x7b', '\x7d'].contains character

/-! ### Texts -/

/-- A text in which every line ends alike. The separators of lines and of paragraphs stay, because
they are kept where they stand in a scalar. -/
def unified : List Char → List Char
  | '\u000d' :: '\n' :: rest => '\n' :: unified rest
  | '\u000d' :: rest => '\n' :: unified rest
  | '\u0085' :: rest => '\n' :: unified rest
  | character :: rest => character :: unified rest
  | [] => []

/-- The controls that a text may hold. -/
def allowedControls : List Char := ['\t', '\n', '\u000d', '\u0085']

/-- Whether a text may hold a character. -/
def isAllowed (character : Char) : Bool :=
  allowedControls.contains character || (' ' ≤ character && character ≤ '\u007e') ||
    ('\u00a0' ≤ character && character ≠ '\ufffe' && character ≠ '\uffff')

/-- How many bytes stand before the first character that no text may hold. -/
def forbidden? (characters : List Char) : Option Nat :=
  match characters.dropWhile isAllowed with
  | [] => none
  | _ => some (String.ofList (characters.takeWhile isAllowed)).utf8ByteSize

/-! ### Places -/

/-- A place in a text. Lines and columns are counted from zero. -/
structure Place where
  line : Nat
  column : Nat
  /-- The bytes of the line before the place. -/
  bytes : Nat
  deriving DecidableEq, Repr, Inhabited

namespace Place

/-- The very beginning of a text. -/
def start : Place := ⟨0, 0, 0⟩

/-- The place behind a character. -/
def after (place : Place) (character : Char) : Place :=
  if isBreak character then ⟨place.line + 1, 0, 0⟩
  else ⟨place.line, place.column + 1, place.bytes + character.utf8Size⟩

/-- A place in words. Nothing is said of the very beginning of a text. -/
def text (place : Place) : String :=
  if place.line = 0 && place.column = 0 then ""
  else s!" at line {place.line + 1} column {place.column + 1}"

end Place

/-- A place in a text with the characters ahead of it. -/
structure Cursor where
  place : Place
  rest : List Char

namespace Cursor

/-- The cursor behind `count` more characters. -/
def advance (count : Nat) (cursor : Cursor) : Cursor :=
  ⟨(cursor.rest.take count).foldl Place.after cursor.place, cursor.rest.drop count⟩

/-- The characters ahead that pass a test, and the cursor behind them. -/
def takeWhile (test : Char → Bool) (cursor : Cursor) : List Char × Cursor :=
  let found := cursor.rest.takeWhile test
  (found, cursor.advance found.length)

/-- The cursor behind the characters ahead that pass a test. -/
def skipWhile (test : Char → Bool) (cursor : Cursor) : Cursor :=
  (cursor.takeWhile test).2

/-- Whether a character is the next one. -/
def sees (character : Char) (cursor : Cursor) : Bool :=
  cursor.rest.head? = some character

/-- The cursor behind a line end, if there is one ahead. -/
def skipBreak (cursor : Cursor) : Cursor :=
  if cursor.rest.head?.any isBreak then cursor.advance 1 else cursor

/-- The cursor behind the gaps ahead and behind a comment after them. -/
def skipComment (cursor : Cursor) : Cursor :=
  let cursor := cursor.skipWhile isGap
  if cursor.sees '#' then cursor.skipWhile (!isBreak ·) else cursor

/-- Whether one of the marks between documents stands at the beginning of a line. -/
def atDocumentMark (cursor : Cursor) : Bool :=
  cursor.place.column = 0 &&
    (cursor.rest.take 3 = ['-', '-', '-'] || cursor.rest.take 3 = ['.', '.', '.']) &&
    atGap (cursor.rest.drop 3)

end Cursor

end BlogOperator.Yaml
