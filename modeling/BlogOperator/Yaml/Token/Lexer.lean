import BlogOperator.Yaml.Token.Name
import BlogOperator.Yaml.Token.Scalar

/-!
# Tokens of a text

`tokens` are the words of a text in order. Indentation begins and ends blocks, and a colon makes a
key of what stands before it: until a line ends, whatever may turn out to be a key is a candidate,
and the tokens from it on are held back.
-/

set_option autoImplicit false

namespace BlogOperator.Yaml

/-- A token that may turn out to be the beginning of a key. -/
structure Candidate where
  /-- Whether it can be nothing else. -/
  isRequired : Bool
  /-- How many tokens come before it. -/
  number : Nat
  place : Place
  deriving DecidableEq, Repr

/-- How far a text has been divided into tokens. -/
structure Lexer where
  cursor : Cursor
  /-- How many tokens have been handed on. -/
  taken : Nat := 0
  /-- The tokens that are held back. -/
  pending : List PlacedToken := []
  candidate : Option Candidate := none
  /-- The candidates outside each of the brackets around the cursor. -/
  outer : List (Option Candidate) := []
  /-- How far the block around the cursor is indented, less than zero outside all blocks. -/
  indent : Int := -1
  indents : List Int := []
  /-- Whether a key may begin at the cursor. -/
  keyAllowed : Bool := true

namespace Lexer

/-- Whether the cursor stands in brackets. -/
def inBrackets (lexer : Lexer) : Bool :=
  !lexer.outer.isEmpty

/-- The place of the cursor. -/
def place (lexer : Lexer) : Place := lexer.cursor.place

/-- Adds a token. -/
def push (token : PlacedToken) (lexer : Lexer) : Lexer :=
  { lexer with pending := lexer.pending ++ [token] }

/-- Adds a token in front of the one with this number. -/
def insert (number : Nat) (token : PlacedToken) (lexer : Lexer) : Lexer :=
  let ahead := number - lexer.taken
  { lexer with
    pending := lexer.pending.take ahead ++ token :: lexer.pending.drop ahead }

/-! ### Candidates for keys -/

/-- A candidate is no key. -/
def refute (lexer : Lexer) (candidate : Candidate) : Except Flaw Unit :=
  if candidate.isRequired then
    lexer.cursor.refuse .colonExpected .key candidate.place
  else .ok ()

/-- Drops the candidate of the innermost brackets. -/
def drop (lexer : Lexer) : Except Flaw Lexer := do
  lexer.candidate.forM lexer.refute
  return { lexer with candidate := none }

/-- Whether the colon of a candidate would come too late at a place. -/
def isStale (place : Place) (candidate : Candidate) : Bool :=
  candidate.place.line < place.line || candidate.place.bytes + 1024 < place.bytes

/-- Drops the candidates that can no longer be keys. -/
def dropStale (lexer : Lexer) : Except Flaw Lexer := do
  let isStale := isStale lexer.place
  (lexer.outer.reverse ++ [lexer.candidate]).forM fun candidate ↦
    (candidate.filter isStale).forM lexer.refute
  return { lexer with
    candidate := lexer.candidate.filter (!isStale ·)
    outer := lexer.outer.map (·.filter (!isStale ·)) }

/-- Makes the next token a candidate, if a key may begin with it. -/
def propose (lexer : Lexer) : Except Flaw Lexer :=
  if lexer.keyAllowed then do
    let isRequired := !lexer.inBrackets && lexer.indent = lexer.place.column
    let number := lexer.taken + lexer.pending.length
    return { ← lexer.drop with candidate := some ⟨isRequired, number, lexer.place⟩ }
  else .ok lexer

/-! ### Blocks -/

/-- Begins a block at a place that is indented further than the block around it. The block begins in
front of the token with a number, or of the next one. -/
def deepen (token : Token) (place : Place) (number : Option Nat) (lexer : Lexer) : Lexer :=
  if lexer.inBrackets || place.column ≤ lexer.indent then lexer
  else
    let token : PlacedToken := ⟨token, place, place⟩
    let lexer := match number with
      | some number => lexer.insert number token
      | none => lexer.push token
    { lexer with indent := place.column, indents := lexer.indent :: lexer.indents }

/-- Ends the blocks that are indented further than this. -/
def unwind (column : Int) (lexer : Lexer) : Lexer :=
  if lexer.inBrackets then lexer
  else
    let ended := (lexer.indent :: lexer.indents).takeWhile (column < ·)
    let left := (lexer.indent :: lexer.indents).dropWhile (column < ·)
    { lexer with
      indent := left.headD (-1)
      indents := left.tail
      pending := lexer.pending ++ ended.map fun _ ↦ ⟨.blockEnd, lexer.place, lexer.place⟩ }

/-! ### Words -/

/-- Skips what stands between tokens. A key may begin on a new line. -/
def skipGaps : (fuel : Nat) → Lexer → Lexer
  | 0, lexer => lexer
  | fuel + 1, lexer =>
    let cursor := lexer.cursor
    let cursor :=
      if cursor.place.column = 0 && cursor.sees '\ufeff' then cursor.advance 1 else cursor
    let mayTab := lexer.inBrackets || !lexer.keyAllowed
    let cursor := cursor.skipWhile fun character ↦
      character = ' ' || (mayTab && character = '\t')
    let cursor := if cursor.sees '#' then cursor.skipWhile (!isBreak ·) else cursor
    if cursor.rest.head?.any isBreak then
      skipGaps fuel { lexer with
        cursor := cursor.advance 1
        keyAllowed := lexer.keyAllowed || !lexer.inBrackets }
    else { lexer with cursor }

/-- Adds a token of so many characters. -/
def sign (token : Token) (width : Nat) (lexer : Lexer) : Lexer :=
  let cursor := lexer.cursor.advance width
  { lexer.push ⟨token, lexer.place, cursor.place⟩ with cursor }

/-- Adds a token that has been scanned. -/
def word (lexer : Lexer) (scanned : Token × Cursor) : Lexer :=
  { lexer.push ⟨scanned.1, lexer.place, scanned.2.place⟩ with cursor := scanned.2 }

/-- Adds a token that ends all blocks. -/
def divide (scan : Cursor → Except Flaw (Token × Cursor)) (lexer : Lexer) : Except Flaw Lexer := do
  let lexer ← (lexer.unwind (-1)).drop
  return { lexer.word (← scan lexer.cursor) with keyAllowed := false }

/-- Adds a mark between documents. -/
def documentMark (token : Token) : Lexer → Except Flaw Lexer :=
  divide fun cursor ↦ .ok (token, cursor.advance 3)

/-- Adds the end of the text, which counts as a line of its own. -/
def textEnd (lexer : Lexer) : Except Flaw Lexer :=
  let place := lexer.place
  let place := if place.column = 0 then place else ⟨place.line + 1, 0, 0⟩
  { lexer with cursor := ⟨place, []⟩ }.divide fun cursor ↦ .ok (.textEnd, cursor)

/-- Adds an opening bracket. -/
def openBracket (token : Token) (lexer : Lexer) : Except Flaw Lexer := do
  let lexer ← lexer.propose
  return { lexer.sign token 1 with
    candidate := none
    outer := lexer.candidate :: lexer.outer
    keyAllowed := true }

/-- Adds a closing bracket. -/
def closeBracket (token : Token) (lexer : Lexer) : Except Flaw Lexer := do
  let lexer ← lexer.drop
  return { lexer.sign token 1 with
    candidate := lexer.outer.head?.join
    outer := lexer.outer.tail
    keyAllowed := false }

/-- Adds a comma. -/
def comma (lexer : Lexer) : Except Flaw Lexer := do
  return { (← lexer.drop).sign .comma 1 with keyAllowed := true }

/-- Begins a block at the cursor for what is only allowed where a key is. -/
def enter (token : Token) (problem : Problem) (lexer : Lexer) : Except Flaw Lexer := do
  if !lexer.inBrackets && !lexer.keyAllowed then lexer.cursor.refuseHere problem
  return lexer.deepen token lexer.place none

/-- Adds the dash of an item. -/
def item (lexer : Lexer) : Except Flaw Lexer := do
  let lexer ← (← lexer.enter .blockListStart .itemNotAllowed).drop
  return { lexer.sign .item 1 with keyAllowed := true }

/-- Adds the question mark of a key. -/
def key (lexer : Lexer) : Except Flaw Lexer := do
  let lexer ← (← lexer.enter .blockMappingStart .keyNotAllowed).drop
  return { lexer.sign .key 1 with keyAllowed := !lexer.inBrackets }

/-- Adds the colon of a value. It makes a key of the candidate. -/
def value (lexer : Lexer) : Except Flaw Lexer := do
  match lexer.candidate with
  | some ⟨_, number, place⟩ =>
    let lexer := (lexer.insert number ⟨.key, place, place⟩).deepen .blockMappingStart place number
    return { lexer.sign .value 1 with candidate := none, keyAllowed := false }
  | none =>
    let lexer ← lexer.enter .blockMappingStart .valueNotAllowed
    return { lexer.sign .value 1 with keyAllowed := !lexer.inBrackets }

/-- Adds a token that may be a key or come before one. -/
def content (scan : Cursor → Except Flaw (Token × Cursor)) (lexer : Lexer) : Except Flaw Lexer := do
  let lexer ← lexer.propose
  return { lexer.word (← scan lexer.cursor) with keyAllowed := false }

/-- Adds a block scalar. -/
def block (isFolded : Bool) (lexer : Lexer) : Except Flaw Lexer := do
  let lexer ← lexer.drop
  return { lexer.word (← lexer.cursor.block isFolded lexer.indent) with keyAllowed := true }

/-- Adds a plain scalar. -/
def plain (lexer : Lexer) : Except Flaw Lexer := do
  let lexer ← lexer.propose
  let (token, isBroken, cursor) ← lexer.cursor.plain lexer.inBrackets (lexer.indent + 1)
  return { lexer.word (token, cursor) with keyAllowed := isBroken }

/-- Characters with which no plain scalar begins. -/
def indicators : List Char :=
  ['-', '?', ':', ',', '[', ']', '\x7b', '\x7d', '#', '&', '*', '!', '|', '>', '\'', '"', '%',
    '@', '\u0060']

/-- Whether a plain scalar may begin like this. -/
def beginsPlain (inBrackets : Bool) (characters : List Char) : Bool :=
  match characters with
  | '-' :: rest => !atGap rest
  | '?' :: rest => !inBrackets && !atGap rest
  | ':' :: rest => !inBrackets && !atGap rest
  | characters => !atGap characters && !characters.head?.any indicators.contains

/-- Adds the token at the cursor, with the ends of blocks before it. -/
def next (lexer : Lexer) : Except Flaw Lexer := do
  let lexer ← (lexer.skipGaps (lexer.cursor.rest.length + 1)).dropStale
  let lexer := lexer.unwind lexer.place.column
  let isSign (rest : List Char) : Bool := lexer.inBrackets || atGap rest
  if lexer.cursor.atDocumentMark then
    lexer.documentMark (if lexer.cursor.sees '-' then .documentStart else .documentEnd)
  else
    match lexer.cursor.rest with
    | [] => lexer.textEnd
    | character :: rest =>
      match character with
      | '[' => lexer.openBracket .flowListStart
      | '\x7b' => lexer.openBracket .flowMappingStart
      | ']' => lexer.closeBracket .flowListEnd
      | '\x7d' => lexer.closeBracket .flowMappingEnd
      | ',' => lexer.comma
      | '*' => lexer.content fun cursor ↦ do
        let (name, cursor) ← cursor.anchor .reference
        return (.reference name, cursor)
      | '&' => lexer.content fun cursor ↦ do
        let (name, cursor) ← cursor.anchor .anchor
        return (.anchor name, cursor)
      | '!' => lexer.content (Cursor.tag lexer.inBrackets)
      | '\'' => lexer.content (Cursor.quoted '\'')
      | '"' => lexer.content (Cursor.quoted '"')
      | _ =>
        if character = '%' && lexer.place.column = 0 then lexer.divide Cursor.directive
        else if character = '-' && atGap rest then lexer.item
        else if character = '?' && isSign rest then lexer.key
        else if character = ':' && isSign rest then lexer.value
        else if character = '|' && !lexer.inBrackets then lexer.block false
        else if character = '>' && !lexer.inBrackets then lexer.block true
        else if beginsPlain lexer.inBrackets (character :: rest) then lexer.plain
        else lexer.cursor.refuse .unexpectedCharacter .token lexer.place

/-! ### All tokens -/

/-- The tokens that can be handed on, as no candidate comes before them, and what is left. -/
def handOn (lexer : Lexer) : List PlacedToken × Lexer :=
  let candidates := (lexer.candidate :: lexer.outer).filterMap (·.map Candidate.number)
  let count := (candidates.foldl min (lexer.taken + lexer.pending.length)) - lexer.taken
  (lexer.pending.take count,
    { lexer with pending := lexer.pending.drop count, taken := lexer.taken + count })

/-- The tokens from the cursor on, until the text ends or stops being well formed. -/
def run : (fuel : Nat) → Lexer → List PlacedToken
  | 0, _ => []
  | fuel + 1, lexer =>
    match lexer.next >>= dropStale with
    | .error flaw => [⟨.broken flaw, lexer.place, lexer.place⟩]
    | .ok lexer =>
      let isDone := lexer.pending.getLast?.any (·.token = .textEnd)
      let (ready, lexer) := lexer.handOn
      if isDone then ready else ready ++ run fuel lexer

end Lexer

/-- The tokens of a text, of which the last is the end of the text or tells why it is not well
formed. -/
def tokens (characters : List Char) : List PlacedToken :=
  Lexer.run (characters.length + 2) { cursor := ⟨.start, unified characters⟩ }

end BlogOperator.Yaml
