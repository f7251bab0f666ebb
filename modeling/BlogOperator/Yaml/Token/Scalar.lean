import BlogOperator.Number.Digit
import BlogOperator.Yaml.Token

/-!
# Scalars

Scanners of scalars in their five styles. The lines of a plain or quoted scalar are joined: a single
line end counts as a space and further ones stand for themselves. The lines of a block are kept, or
joined where they are not indented further.
-/

set_option autoImplicit false

namespace BlogOperator.Yaml

open BlogOperator.Number

/-! ### Gaps between words -/

/-- What stands between two words of a plain or quoted scalar. -/
structure Gap where
  /-- The blanks, unless a line ends. -/
  blanks : List Char := []
  isBroken : Bool := false
  /-- The line end that comes first. -/
  first : Option Char := none
  /-- The line ends that come after it. -/
  further : List Char := []
  deriving DecidableEq, Repr

namespace Gap

/-- A gap with one more blank or line end. -/
def push (gap : Gap) (character : Char) : Gap :=
  if isBreak character then
    if gap.isBroken then { gap with further := gap.further ++ [character] }
    else { isBroken := true, first := some character }
  else if gap.isBroken then gap
  else { gap with blanks := gap.blanks ++ [character] }

/-- What a gap amounts to. -/
def text (gap : Gap) : List Char :=
  if !gap.isBroken then gap.blanks
  else if gap.first = some '\n' then if gap.further.isEmpty then [' '] else gap.further
  else gap.first.toList ++ gap.further

end Gap

namespace Cursor

/-! ### Quoted scalars -/

/-- The letters that stand for a character after a backslash. -/
def escapes : List (Char × Char) := [
  ('0', '\u0000'), ('a', '\u0007'), ('b', '\u0008'), ('t', '\t'), ('\t', '\t'), ('n', '\n'),
  ('v', '\u000b'), ('f', '\u000c'), ('r', '\u000d'), ('e', '\u001b'), (' ', ' '), ('"', '"'),
  ('/', '/'), ('\\', '\\'), ('N', '\u0085'), ('_', '\u00a0'), ('L', '\u2028'), ('P', '\u2029')]

/-- The number of hexadecimal digits after a letter that announces them. -/
def escapeWidth? : Char → Option Nat
  | 'x' => some 2
  | 'u' => some 4
  | 'U' => some 8
  | _ => none

/-- The character that so many hexadecimal digits stand for. -/
def numbered (width : Nat) (start : Place) (cursor : Cursor) : Except Flaw (Char × Cursor) :=
  let digits := cursor.rest.take width
  match if digits.length = width then natural? 16 digits else none with
  | none => cursor.refuse .hexadecimalExpected .escape start
  | some value =>
    if value.isValidChar then .ok (Char.ofNat value, cursor.advance width)
    else cursor.refuse .noSuchCharacter .escape start

/-- The character that a backslash and what follows it stand for. -/
def escape (start : Place) (cursor : Cursor) : Except Flaw (Char × Cursor) :=
  let letter := (cursor.rest.drop 1).head?
  match letter.bind (List.lookup · escapes), letter.bind escapeWidth? with
  | some character, _ => .ok (character, cursor.advance 2)
  | none, some width => numbered width start (cursor.advance 2)
  | none, none => cursor.refuse .unknownEscape .escape start

/-- The next word of a quoted scalar, and the gap behind it as far as a backslash at the end of a
line says what it is. -/
def quotedWord (quote : Char) (start : Place) : (fuel : Nat) → Cursor →
    Except Flaw (List Char × Gap × Cursor)
  | 0, cursor => .ok ([], {}, cursor)
  | fuel + 1, cursor =>
    let further (character : Char) (cursor : Cursor) :
        Except Flaw (List Char × Gap × Cursor) := do
      let (word, gap, cursor) ← quotedWord quote start fuel cursor
      return (character :: word, gap, cursor)
    match cursor.rest with
    | [] => .ok ([], {}, cursor)
    | character :: rest =>
      if isGap character || isBreak character then .ok ([], {}, cursor)
      else if character = quote then
        if quote = '\'' && rest.head? = some '\'' then further '\'' (cursor.advance 2)
        else .ok ([], {}, cursor)
      else if quote = '"' && character = '\\' then
        if rest.head?.any isBreak then .ok ([], { isBroken := true }, cursor.advance 2)
        else do
          let (character, cursor) ← escape start cursor
          further character cursor
      else further character (cursor.advance 1)

/-- The rest of a quoted scalar. -/
def quotedRest (quote : Char) (start : Place) : (fuel : Nat) → Cursor →
    Except Flaw (List Char × Cursor)
  | 0, cursor => cursor.refuse .unexpectedEnd .quoted start
  | fuel + 1, cursor => do
    if cursor.atDocumentMark then cursor.refuse .unexpectedDocumentMark .quoted start
    if cursor.rest.isEmpty then cursor.refuse .unexpectedEnd .quoted start
    let (word, gap, cursor) ← quotedWord quote start cursor.rest.length cursor
    if cursor.sees quote then return (word, cursor.advance 1)
    let (blanks, cursor) := cursor.takeWhile fun character ↦ isGap character || isBreak character
    let (rest, cursor) ← quotedRest quote start fuel cursor
    return (word ++ (blanks.foldl Gap.push gap).text ++ rest, cursor)

/-- A scalar in quotes of this kind. -/
def quoted (quote : Char) (cursor : Cursor) : Except Flaw (Token × Cursor) := do
  let style := if quote = '\'' then Style.singleQuoted else .doubleQuoted
  let (text, cursor) ← quotedRest quote cursor.place cursor.rest.length (cursor.advance 1)
  return (.scalar (String.ofList text) style, cursor)

/-! ### Plain scalars -/

/-- Whether a word of a plain scalar ends before these characters. -/
def endsWord (inBrackets : Bool) : List Char → Bool
  | [] => true
  | ':' :: rest => atGap rest
  | character :: _ =>
    isGap character || isBreak character || (inBrackets && isDivider character)

/-- Whether these characters are a colon that must not stand in brackets. -/
def isStrayColon : List Char → Bool
  | ':' :: next :: _ => isDivider next || next = '?'
  | _ => false

/-- The next word of a plain scalar. -/
def plainWord (inBrackets : Bool) (start : Place) : Place → List Char →
    Except Flaw (List Char × Cursor)
  | place, [] => .ok ([], ⟨place, []⟩)
  | place, character :: rest =>
    let here : Cursor := ⟨place, character :: rest⟩
    if inBrackets && isStrayColon here.rest then here.refuse .unexpectedColon .plain start
    else if endsWord inBrackets here.rest then .ok ([], here)
    else do
      let (word, cursor) ← plainWord inBrackets start (place.after character) rest
      return (character :: word, cursor)

/-- The gap behind a word of a plain scalar. No line may have a tab where it should be indented. -/
def plainGap (indent : Int) (start : Place) : Place → Gap → List Char → Except Flaw (Gap × Cursor)
  | place, gap, [] => .ok (gap, ⟨place, []⟩)
  | place, gap, character :: rest =>
    let here : Cursor := ⟨place, character :: rest⟩
    if !(isGap character || isBreak character) then .ok (gap, here)
    else if gap.isBroken && place.column < indent && character = '\t' then
      here.refuse .tabInIndentation .plain start
    else plainGap indent start (place.after character) (gap.push character) rest

/-- The rest of a plain scalar behind a gap, and the gap that it ends with. -/
def plainRest (inBrackets : Bool) (indent : Int) (start : Place) : (fuel : Nat) → Gap → Cursor →
    Except Flaw (List Char × Gap × Cursor)
  | 0, gap, cursor => .ok ([], gap, cursor)
  | fuel + 1, gap, cursor => do
    if cursor.atDocumentMark || cursor.sees '#' then return ([], gap, cursor)
    let (word, cursor) ← plainWord inBrackets start cursor.place cursor.rest
    let (text, gap) := if word.isEmpty then ([], gap) else (gap.text ++ word, {})
    let isDone := !cursor.rest.head?.any fun next ↦ isGap next || isBreak next
    if isDone then return (text, gap, cursor)
    let (gap, cursor) ← plainGap indent start cursor.place gap cursor.rest
    if !inBrackets && cursor.place.column < indent then return (text, gap, cursor)
    let (rest, gap, cursor) ← plainRest inBrackets indent start fuel gap cursor
    return (text ++ rest, gap, cursor)

/-- A plain scalar, and whether a line ends behind it. Outside brackets its further lines are
indented at least so far. -/
def plain (inBrackets : Bool) (indent : Int) (cursor : Cursor) :
    Except Flaw (Token × Bool × Cursor) := do
  let (text, gap, cursor) ←
    plainRest inBrackets indent cursor.place (cursor.rest.length + 1) {} cursor
  return (.scalar (String.ofList text) .plain, gap.isBroken, cursor)

/-! ### Blocks -/

/-- What becomes of the line ends behind the last line of a block. -/
inductive Chomping where
  /-- The first one is kept. -/
  | clip
  | strip
  | keep
  deriving DecidableEq, Repr

/-- The sign ahead that says what becomes of the last line ends. -/
def chomping (cursor : Cursor) : Option Chomping × Cursor :=
  if cursor.sees '+' then (some .keep, cursor.advance 1)
  else if cursor.sees '-' then (some .strip, cursor.advance 1)
  else (none, cursor)

/-- The digit ahead that says how far a block is indented, zero if there is none. -/
def indentation (start : Place) (cursor : Cursor) : Except Flaw (Nat × Cursor) :=
  match cursor.rest.head?.bind (digit? 10) with
  | none => .ok (0, cursor)
  | some 0 => cursor.refuse .zeroIndentation .block start
  | some digit => .ok (digit, cursor.advance 1)

/-- The empty lines ahead in a block, and how far the farthest of them and the next are indented.
An indentation of zero is not yet known. -/
def emptyLines (indent : Nat) (start : Place) : (fuel deepest : Nat) → Cursor →
    Except Flaw (List Char × Nat × Cursor)
  | 0, deepest, cursor => .ok ([], deepest, cursor)
  | fuel + 1, deepest, cursor => do
    let spaces := (cursor.rest.takeWhile (· = ' ')).length
    let cursor := cursor.advance
      (if indent = 0 then spaces else min spaces (indent - cursor.place.column))
    let deepest := max deepest cursor.place.column
    if (indent = 0 || cursor.place.column < indent) && cursor.sees '\t' then
      cursor.refuse .tabForIndentation .block start
    match cursor.rest with
    | [] => return ([], deepest, cursor)
    | character :: _ =>
      if !isBreak character then return ([], deepest, cursor)
      let (lines, deepest, cursor) ←
        emptyLines indent start fuel deepest (cursor.advance 1)
      return (character :: lines, deepest, cursor)

/-- Where a line of a block ends, and which empty lines follow. -/
structure LineEnd where
  isIndented : Bool := false
  character : Option Char := none
  empty : List Char

/-- What stands between a line of a block and the next one. A folded line end is a space, or nothing
before empty lines; it is kept next to a line that is indented further. -/
def LineEnd.text (lineEnd : LineEnd) (isFolded isIndented : Bool) : List Char :=
  let isJoined :=
    isFolded && lineEnd.character = some '\n' && !lineEnd.isIndented && !isIndented
  let first :=
    if !isJoined then lineEnd.character.toList
    else if lineEnd.empty.isEmpty then [' ']
    else []
  first ++ lineEnd.empty

/-- The lines ahead in a block, and the end of the last one. -/
def blockLines (isFolded : Bool) (indent : Nat) (start : Place) : (fuel : Nat) → LineEnd →
    Cursor → Except Flaw (List Char × LineEnd × Cursor)
  | 0, before, cursor => .ok ([], before, cursor)
  | fuel + 1, before, cursor => do
    if cursor.place.column ≠ indent || cursor.rest.isEmpty then return ([], before, cursor)
    let isIndented := cursor.rest.head?.any isGap
    let (line, cursor) := cursor.takeWhile (!isBreak ·)
    let character := cursor.rest.head?
    let (empty, _, cursor) ←
      emptyLines indent start (cursor.rest.length + 1) 0 cursor.skipBreak
    let (rest, last, cursor) ←
      blockLines isFolded indent start fuel ⟨isIndented, character, empty⟩ cursor
    return (before.text isFolded isIndented ++ line ++ rest, last, cursor)

/-- A block scalar inside a block that is indented so far. -/
def block (isFolded : Bool) (outer : Int) (cursor : Cursor) : Except Flaw (Token × Cursor) := do
  let start := cursor.place
  let (before, cursor) := (cursor.advance 1).chomping
  let (digit, cursor) ← indentation start cursor
  let (behind, cursor) := if before.isNone then cursor.chomping else (none, cursor)
  let chomping := (before <|> behind).getD .clip
  let cursor := cursor.skipComment
  if !atBreak cursor.rest then cursor.refuse .lineEndExpected .block start
  let cursor := cursor.skipBreak
  let given := if digit = 0 then 0 else (max outer 0).toNat + digit
  let (empty, deepest, cursor) ←
    emptyLines given start (cursor.rest.length + 1) 0 cursor
  let indent := if given = 0 then max deepest (max (outer + 1) 1).toNat else given
  let (lines, last, cursor) ←
    blockLines isFolded indent start (cursor.rest.length + 1) { empty } cursor
  let tail := match chomping with
    | .strip => []
    | .clip => last.character.toList
    | .keep => last.character.toList ++ last.empty
  return (.scalar (String.ofList (lines ++ tail)) (if isFolded then .folded else .literal), cursor)

end Cursor

end BlogOperator.Yaml
