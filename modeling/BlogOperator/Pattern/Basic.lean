/-!
# Search patterns

A pattern stands for a set of texts: characters and sets of characters, one after the other,
repeated, in groups or as alternatives. `Pattern` keeps of each part what decides whether an
automaton can search for it. `Pattern.depth` says how deep its parts are nested, and
`Pattern.follow` whether it is sound: where it is told to look at bytes, it may not match part of
a character.
-/

set_option autoImplicit false

namespace BlogOperator

/-- A character of a pattern, and how it is written. -/
structure PatternCharacter where
  value : Char
  /-- Whether it is written as a byte, in two hexadecimal digits. -/
  isByte : Bool := false
  deriving DecidableEq, Repr

namespace PatternCharacter

/-- Whether it is one of ASCII. -/
def isAscii (character : PatternCharacter) : Bool :=
  character.value ≤ '\x7f'

end PatternCharacter

/-- How two sets of characters make a third one. -/
inductive SetOperation where
  | intersection
  | difference
  | symmetricDifference
  deriving DecidableEq, Repr

/-- A set of characters. -/
inductive CharacterSet where
  | nothing
  | one (character : PatternCharacter)
  | range (first last : PatternCharacter)
  /-- Digits, blanks or the characters of words, or all others. -/
  | abbreviated (negated : Bool)
  /-- A set of ASCII that is named between colons, or all others. -/
  | named (negated : Bool)
  /-- The characters with a property. -/
  | property
  | union (parts : List CharacterSet)
  | combined (operation : SetOperation) (left right : CharacterSet)
  | bracketed (negated : Bool) (inside : CharacterSet)
  deriving Repr

/-- What flags say about the rest of a group; flags that make no difference are left out. -/
structure FlagChange where
  /-- Whether characters are looked at, and not bytes. -/
  unicode : Option Bool := none
  /-- Whether blanks and comments are passed over. -/
  spaced : Option Bool := none
  deriving DecidableEq, Repr

/-- A search pattern. -/
inductive Pattern where
  | nothing
  | one (character : PatternCharacter)
  /-- Any character. -/
  | any
  /-- The edge of a line or of the text. -/
  | edge
  /-- The edge of a word, or where there is none. -/
  | wordEdge
  | set (characters : CharacterSet)
  | flags (change : FlagChange)
  | repeated (inside : Pattern)
  | group (change : FlagChange) (inside : Pattern)
  | sequence (parts : List Pattern)
  | choice (parts : List Pattern)
  deriving Repr

/-! ### Depth -/

mutual

/-- How deep brackets, unions and operations are nested in a set. -/
def CharacterSet.depth : CharacterSet → Nat
  | .union parts => CharacterSet.depthOfAll parts + 1
  | .combined _ left right => max left.depth right.depth + 1
  | .bracketed _ inside => inside.depth + 1
  | _ => 0

/-- The depth of the deepest set. -/
def CharacterSet.depthOfAll : List CharacterSet → Nat
  | [] => 0
  | part :: rest => max part.depth (CharacterSet.depthOfAll rest)

end

mutual

/-- How deep the parts of a pattern are nested. -/
def Pattern.depth : Pattern → Nat
  | .set characters => characters.depth
  | .repeated inside => inside.depth + 1
  | .group _ inside => inside.depth + 1
  | .sequence parts => Pattern.depthOfAll parts + 1
  | .choice parts => Pattern.depthOfAll parts + 1
  | _ => 0

/-- The depth of the deepest pattern. -/
def Pattern.depthOfAll : List Pattern → Nat
  | [] => 0
  | part :: rest => max part.depth (Pattern.depthOfAll rest)

end

/-! ### Soundness -/

mutual

/-- Whether a set of bytes goes beyond ASCII. A set in brackets may not, and there are no bytes for
characters beyond ASCII or for properties. -/
def CharacterSet.exceedsAscii? : CharacterSet → Option Bool
  | .nothing => some false
  | .one character => if character.isAscii then some false else none
  | .range first last => if first.isAscii && last.isAscii then some false else none
  | .abbreviated negated => if negated then none else some false
  | .named negated => some negated
  | .property => none
  | .union parts => CharacterSet.anyExceedsAscii? parts
  | .combined operation left right => do
    let left ← left.exceedsAscii?
    let right ← right.exceedsAscii?
    return match operation with
      | .intersection => left && right
      | .difference => left && !right
      | .symmetricDifference => left != right
  | .bracketed negated inside => do
    if (← inside.exceedsAscii?) == negated then return false else none

/-- Whether one of several sets of bytes goes beyond ASCII. -/
def CharacterSet.anyExceedsAscii? : List CharacterSet → Option Bool
  | [] => some false
  | part :: rest => do
    let here ← part.exceedsAscii?
    return (← CharacterSet.anyExceedsAscii? rest) || here

end

/-- What is known where a part of a pattern ends. -/
structure Outlook where
  /-- Whether characters are looked at, and not bytes. -/
  unicode : Bool := true
  /-- Whether the edge of a word has been asked for while characters are looked at. -/
  wordEdge : Bool := false
  deriving DecidableEq, Repr

/-- What is known behind flags. -/
def Outlook.changed (outlook : Outlook) (change : FlagChange) : Outlook :=
  { outlook with unicode := change.unicode.getD outlook.unicode }

mutual

/-- What is known behind a pattern, nothing if it might match part of a character. Flags hold to
the end of the group they stand in. -/
def Pattern.follow (outlook : Outlook) : Pattern → Option Outlook
  | .one character =>
    if outlook.unicode || !character.isByte || character.isAscii then some outlook else none
  | .any => if outlook.unicode then some outlook else none
  | .wordEdge => some { outlook with wordEdge := outlook.wordEdge || outlook.unicode }
  | .set characters =>
    if outlook.unicode || characters.exceedsAscii? == some false then some outlook else none
  | .flags change => some (outlook.changed change)
  | .repeated inside => inside.follow outlook
  | .group change inside => do
    let behind ← inside.follow (outlook.changed change)
    return { behind with unicode := outlook.unicode }
  | .sequence parts => Pattern.followAll outlook parts
  | .choice parts => Pattern.followAll outlook parts
  | .nothing => some outlook
  | .edge => some outlook

/-- What is known behind several patterns. -/
def Pattern.followAll (outlook : Outlook) : List Pattern → Option Outlook
  | [] => some outlook
  | part :: rest => do Pattern.followAll (← part.follow outlook) rest

end

end BlogOperator
