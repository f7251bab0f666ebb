import BlogOperator.Number.Digit
import BlogOperator.Pattern.Basic
import BlogOperator.Text.Blank
import BlogOperator.Text.Letter

/-!
# Reading search patterns

`Pattern.read?` reads a pattern, one part after the other, with the groups and the brackets that
are open around it. Patterns stand within braces here, so that a brace that opens in one is never
closed.
-/

set_option autoImplicit false

namespace BlogOperator.Pattern

open BlogOperator.Number BlogOperator.Text

/-! ### Blanks -/

/-- Passes over blanks and over comments, which go from a number sign to the end of the line. -/
def dropComments : (inComment : Bool) → List Char → List Char
  | _, [] => []
  | true, character :: rest => dropComments (character != '\n') rest
  | false, character :: rest =>
    if isBlank character then dropComments false rest
    else if character = '#' then dropComments true rest
    else character :: rest

/-- Passes over what has no meaning in a pattern that may be spaced. -/
def skip (spaced : Bool) (characters : List Char) : List Char :=
  if spaced then dropComments false characters else characters

/-- The character behind blanks and one number sign. -/
def glimpse (spaced : Bool) (characters : List Char) : Option Char :=
  if spaced then
    match characters.dropWhile isBlank with
    | '#' :: rest => (rest.dropWhile isBlank).head?
    | rest => rest.head?
  else characters.head?

/-! ### Escapes -/

/-- The value of as many hexadecimal digits, the first of them having this value before them. -/
def hexadecimal (spaced : Bool) : (count value : Nat) → List Char → Option (Nat × List Char)
  | 0, value, rest => some (value, rest)
  | count + 1, value, rest =>
    match skip spaced rest with
    | [] => none
    | character :: rest => do
      hexadecimal spaced count (value * 16 + (← digit? 16 character)) rest

/-- A character by its number, in as many hexadecimal digits. -/
def byNumber (spaced isByte : Bool) (count : Nat) (rest : List Char) :
    Option (Pattern × List Char) := do
  let (value, rest) ← hexadecimal spaced count 0 rest
  if value.isValidChar then return (.one ⟨Char.ofNat value, isByte⟩, rest) else none

/-- The letters of the classes of characters that have one: control characters, letters, marks,
numbers, punctuation, symbols and separators. -/
def classLetters : List Char := ['c', 'l', 'm', 'n', 'p', 's', 'z']

/-- The characters that a backslash and a letter stand for. -/
def escapedLetters : List (Char × Char) :=
  [('a', '\x07'), ('f', '\x0c'), ('n', '\n'), ('r', '\r'), ('t', '\t'), ('v', '\x0b')]

/-- What follows a backslash. Signs of ASCII stand for themselves. -/
def escape? (spaced : Bool) : List Char → Option (Pattern × List Char)
  | [] => none
  | 'x' :: rest => byNumber spaced true 2 rest
  | 'u' :: rest => byNumber spaced false 4 rest
  | 'U' :: rest => byNumber spaced false 8 rest
  | character :: rest =>
    if character = 'p' || character = 'P' then
      match skip spaced rest with
      | letter :: rest =>
        if classLetters.contains letter.toLower then some (.set .property, rest) else none
      | [] => none
    else if ['d', 's', 'w'].contains character then some (.set (.abbreviated false), rest)
    else if ['D', 'S', 'W'].contains character then some (.set (.abbreviated true), rest)
    else if ['A', 'z'].contains character then some (.edge, rest)
    else if ['b', 'B', '<', '>'].contains character then some (.wordEdge, rest)
    else if character ≤ '\x7f' && !character.isAlphanum then some (.one ⟨character, false⟩, rest)
    else (escapedLetters.lookup character).map fun value ↦ (.one ⟨value, false⟩, rest)

/-! ### Sets in brackets -/

/-- A bracket that is not closed yet. -/
structure OpenSet where
  negated : Bool
  /-- What stands before the last operation, and that operation. -/
  left : Option (CharacterSet × SetOperation) := none
  /-- What stands behind it, the last part first. -/
  parts : List CharacterSet := []
  /-- Whether there has been nothing but hyphens, which stand for themselves at the front. -/
  isFresh : Bool := true

namespace OpenSet

/-- What the bracket holds so far. -/
def whole (opened : OpenSet) : CharacterSet :=
  let right : CharacterSet := match opened.parts.reverse with
    | [] => .nothing
    | [part] => part
    | parts => .union parts
  match opened.left with
  | some (left, operation) => .combined operation left right
  | none => right

/-- Adds a part. -/
def add (opened : OpenSet) (part : CharacterSet) : OpenSet :=
  { opened with parts := part :: opened.parts, isFresh := false }

/-- Takes what the bracket holds for the left side of an operation. -/
def operate (opened : OpenSet) (operation : SetOperation) : OpenSet :=
  { opened with left := some (opened.whole, operation), parts := [], isFresh := false }

end OpenSet

/-- A bracket behind its sign, which a circumflex negates. -/
def openSet (spaced : Bool) (rest : List Char) : OpenSet × List Char :=
  match skip spaced rest with
  | '^' :: rest => (⟨true, none, [], true⟩, rest)
  | rest => (⟨false, none, [], true⟩, rest)

/-- The names of sets of ASCII. -/
def setNames : List String :=
  ["alnum", "alpha", "ascii", "blank", "cntrl", "digit", "graph", "lower", "print", "punct",
    "space", "upper", "word", "xdigit"]

/-- A named set behind its bracket, and whether it is negated. -/
def named? : List Char → Option (Bool × List Char)
  | ':' :: rest =>
    let (negated, rest) := match rest with
      | '^' :: rest => (true, rest)
      | rest => (false, rest)
    match rest.dropWhile (· != ':') with
    | ':' :: ']' :: behind =>
      if setNames.contains (String.ofList (rest.takeWhile (· != ':'))) then some (negated, behind)
      else none
    | _ => none
  | _ => none

/-- A character or an escape within brackets. -/
def item? (spaced : Bool) : List Char → Option (Pattern × List Char)
  | [] => none
  | '\\' :: rest => escape? spaced rest
  | character :: rest => some (.one ⟨character, false⟩, rest)

/-- A pattern as part of a set, if it is a character or a set. -/
def asSet? : Pattern → Option CharacterSet
  | .one character => some (.one character)
  | .set characters => some characters
  | _ => none

/-- A range between two patterns, which are characters in order. -/
def range? : Pattern → Pattern → Option CharacterSet
  | .one first, .one last => if first.value ≤ last.value then some (.range first last) else none
  | _, _ => none

/-- A character, a set or a range within brackets. A hyphen makes a range unless the bracket is
closed behind it or another hyphen follows. -/
def member? (spaced : Bool) (characters : List Char) : Option (CharacterSet × List Char) := do
  let (first, rest) ← item? spaced characters
  match skip spaced rest with
  | '-' :: behind =>
    if [some ']', some '-'].contains (glimpse spaced behind) then
      return (← asSet? first, '-' :: behind)
    let (last, rest) ← item? spaced (skip spaced behind)
    return (← range? first last, rest)
  | rest => return (← asSet? first, rest)

/-! ### Groups -/

/-- The flags there are. -/
def flagLetters : List Char := ['i', 'm', 's', 'U', 'u', 'R', 'x']

/-- Flags up to the sign behind them, which is a colon for a group and a parenthesis otherwise.
No flag may be there twice, and those behind a hyphen are taken away. -/
def flags? (seen : List Char) (negated : Bool) (change : FlagChange) :
    List Char → Option (FlagChange × Char × List Char)
  | [] => none
  | character :: rest =>
    if character = ':' || character = ')' then
      if seen.head? = some '-' then none else some (change, character, rest)
    else if character = '-' then
      if negated then none else flags? ('-' :: seen) true change rest
    else if flagLetters.contains character && !seen.contains character then
      let change :=
        if character = 'u' then { change with unicode := some !negated }
        else if character = 'x' then { change with spaced := some !negated }
        else change
      flags? (character :: seen) negated change rest
    else none

/-- Whether characters can name a group. -/
def isGroupName : List Char → Bool
  | [] => false
  | first :: rest => (first = '_' || isAlphabetic first) &&
      rest.all fun character ↦ ['_', '.', '[', ']'].contains character || isAlphanumeric character

/-! ### The whole pattern -/

/-- What has been read of a group, or of the whole pattern. -/
structure Level where
  /-- The alternatives that are complete, the last one first. -/
  choices : List Pattern := []
  /-- The parts of the alternative that is being read, the last one first. -/
  parts : List Pattern := []

namespace Level

/-- The alternative that is being read. -/
def current (level : Level) : Pattern :=
  match level.parts.reverse with
  | [] => .nothing
  | [part] => part
  | parts => .sequence parts

/-- All that has been read. -/
def whole (level : Level) : Pattern :=
  match level.choices with
  | [] => level.current
  | choices => .choice (level.current :: choices).reverse

/-- Adds a part. -/
def add (level : Level) (part : Pattern) : Level :=
  { level with parts := part :: level.parts }

/-- Begins a further alternative. -/
def alternate (level : Level) : Level :=
  ⟨level.current :: level.choices, []⟩

end Level

/-- A group that is not closed yet. -/
structure OpenGroup where
  change : FlagChange
  /-- Whether the pattern around it is spaced. -/
  spaced : Bool
  /-- What stands before it. -/
  before : Level

/-- How far a pattern has been read. -/
structure Reading where
  spaced : Bool := false
  /-- The names of groups. -/
  names : List String := []
  level : Level := {}
  /-- The open groups, the innermost first. -/
  groups : List OpenGroup := []
  /-- The open brackets, the innermost first. -/
  sets : List OpenSet := []

namespace Reading

/-- Adds a part. -/
def add (reading : Reading) (part : Pattern) : Reading :=
  { reading with level := reading.level.add part }

/-- Begins a group. -/
def openGroup (reading : Reading) (change : FlagChange) : Reading :=
  { reading with
    spaced := change.spaced.getD reading.spaced
    level := {}
    groups := ⟨change, reading.spaced, reading.level⟩ :: reading.groups }

/-- Reads what follows an opening parenthesis: a name, flags, or neither. -/
def parenthesis (reading : Reading) (rest : List Char) : Option (Reading × List Char) :=
  let byName (rest : List Char) :=
    let name := String.ofList (rest.takeWhile (· != '>'))
    match rest.dropWhile (· != '>') with
    | [] => none
    | _ :: rest =>
      if isGroupName name.toList && !reading.names.contains name then
        some ({ reading with names := name :: reading.names }.openGroup {}, rest)
      else none
  match skip reading.spaced rest with
  | '?' :: 'P' :: '<' :: rest => byName rest
  | '?' :: '<' :: rest => byName rest
  | '?' :: ')' :: _ => none
  | '?' :: rest => do
    let (change, sign, rest) ← flags? [] false {} rest
    if sign = ':' then return (reading.openGroup change, rest)
    let reading := reading.add (.flags change)
    return ({ reading with spaced := change.spaced.getD reading.spaced }, rest)
  | rest => some (reading.openGroup {}, rest)

/-- Closes a group. -/
def closeGroup (reading : Reading) : Option Reading :=
  match reading.groups with
  | [] => none
  | opened :: groups => some { reading with
      spaced := opened.spaced
      level := opened.before.add (.group opened.change reading.level.whole)
      groups }

/-- Repeats the last part, if there is one that is not made of flags. -/
def repeatLast (reading : Reading) : Option Reading :=
  match reading.level.parts with
  | [] => none
  | .flags _ :: _ => none
  | part :: parts => some { reading with level.parts := .repeated part :: parts }

/-- Reads one more part outside brackets. A question mark may follow a repetition. -/
def outside (reading : Reading) (character : Char) (rest : List Char) :
    Option (Reading × List Char) :=
  match character with
  | '(' => reading.parenthesis rest
  | ')' => reading.closeGroup.map (·, rest)
  | '|' => some ({ reading with level := reading.level.alternate }, rest)
  | '[' =>
    let (opened, rest) := openSet reading.spaced rest
    some ({ reading with sets := [opened] }, rest)
  | '\x7b' => none
  | '\\' => (escape? reading.spaced rest).map fun (part, rest) ↦ (reading.add part, rest)
  | '.' => some (reading.add .any, rest)
  | other =>
    if ['?', '*', '+'].contains other then
      reading.repeatLast.map fun reading ↦
        (reading, if rest.head? = some '?' then rest.tail else rest)
    else if ['^', '$'].contains other then some (reading.add .edge, rest)
    else some (reading.add (.one ⟨other, false⟩), rest)

/-- Reads one more part within brackets, which are `opened` inside `around`. -/
def inside (reading : Reading) (opened : OpenSet) (around : List OpenSet) (character : Char)
    (rest : List Char) : Option (Reading × List Char) :=
  let going (opened : OpenSet) : Reading := { reading with sets := opened :: around }
  match opened.isFresh, opened.parts, character, rest with
  | true, _, '-', rest =>
    some (going { opened.add (.one ⟨'-', false⟩) with isFresh := true }, rest)
  | true, [], ']', rest => some (going (opened.add (.one ⟨']', false⟩)), rest)
  | _, _, ']', rest =>
    let closed : CharacterSet := .bracketed opened.negated opened.whole
    match around with
    | [] => some ({ reading with sets := [] }.add (.set closed), rest)
    | outer :: around => some ({ reading with sets := outer.add closed :: around }, rest)
  | _, _, '[', rest =>
    match named? rest with
    | some (negated, rest) => some (going (opened.add (.named negated)), rest)
    | none =>
      let (inner, rest) := openSet reading.spaced rest
      some ({ reading with sets := inner :: opened :: around }, rest)
  | _, _, '&', '&' :: rest => some (going (opened.operate .intersection), rest)
  | _, _, '-', '-' :: rest => some (going (opened.operate .difference), rest)
  | _, _, '~', '~' :: rest => some (going (opened.operate .symmetricDifference), rest)
  | _, _, character, rest =>
    (member? reading.spaced (character :: rest)).map fun (part, rest) ↦
      (going (opened.add part), rest)

/-- Reads one more part. -/
def step (reading : Reading) (character : Char) (rest : List Char) :
    Option (Reading × List Char) :=
  match reading.sets with
  | [] => reading.outside character rest
  | opened :: around => reading.inside opened around character rest

/-- Reads to the end. -/
def run (reading : Reading) (characters : List Char) : Option Reading :=
  match skip reading.spaced characters with
  | [] => some reading
  | character :: rest =>
    match reading.step character rest with
    | none => none
    | some (next, left) => if left.length < characters.length then next.run left else none
termination_by characters.length

/-- What has been read, if nothing is open any more. -/
def finished? (reading : Reading) : Option Pattern :=
  match reading.groups, reading.sets with
  | [], [] => some reading.level.whole
  | _, _ => none

end Reading

/-- How deep the parts of a pattern may be nested. -/
def depthLimit : Nat := 250

/-- Reads a pattern. -/
def read? (characters : List Char) : Option Pattern := do
  let reading ← ({} : Reading).run characters
  let pattern ← reading.finished?
  if pattern.depth ≤ depthLimit then return pattern else none

end BlogOperator.Pattern
