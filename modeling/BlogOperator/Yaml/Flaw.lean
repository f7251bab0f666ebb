import BlogOperator.Yaml.Cursor

/-!
# What keeps a text from being YAML

A `Flaw` is the reason why a text is not well formed: a `Problem` with the place where it was
noticed, and the `Activity` during which it was noticed with the place where that began.
-/

set_option autoImplicit false

namespace BlogOperator.Yaml

/-- What was noticed. -/
inductive Problem where
  | colonExpected
  | itemNotAllowed
  | keyNotAllowed
  | valueNotAllowed
  | unexpectedCharacter
  | unknownDirective
  | lineEndExpected
  | directiveNameExpected
  | unexpectedNameCharacter
  | versionDotExpected
  | versionTooLong
  | versionExpected
  | gapExpected
  | gapOrLineEndExpected
  | nameExpected
  | angleExpected
  | bangExpected
  | tagExpected
  | octetExpected
  | wrongFirstOctet
  | wrongFurtherOctet
  | zeroIndentation
  | tabForIndentation
  | unexpectedDocumentMark
  | unexpectedEnd
  | unknownEscape
  | hexadecimalExpected
  | noSuchCharacter
  | tabInIndentation
  | unexpectedColon
  | documentStartExpected
  | contentExpected
  | unknownHandle
  | dashExpected
  | keyExpected
  | listSeparatorExpected
  | mappingSeparatorExpected
  | repeatedVersion
  | otherVersion
  | repeatedHandle
  deriving DecidableEq, Repr

/-- The phrase that says what was noticed. -/
def Problem.message : Problem → String
  | .colonExpected => "could not find expected ':'"
  | .itemNotAllowed => "block sequence entries are not allowed in this context"
  | .keyNotAllowed => "mapping keys are not allowed in this context"
  | .valueNotAllowed => "mapping values are not allowed in this context"
  | .unexpectedCharacter => "found character that cannot start any token"
  | .unknownDirective => "found unknown directive name"
  | .lineEndExpected => "did not find expected comment or line break"
  | .directiveNameExpected => "could not find expected directive name"
  | .unexpectedNameCharacter => "found unexpected non-alphabetical character"
  | .versionDotExpected => "did not find expected digit or '.' character"
  | .versionTooLong => "found extremely long version number"
  | .versionExpected => "did not find expected version number"
  | .gapExpected => "did not find expected whitespace"
  | .gapOrLineEndExpected => "did not find expected whitespace or line break"
  | .nameExpected => "did not find expected alphabetic or numeric character"
  | .angleExpected => "did not find the expected '>'"
  | .bangExpected => "did not find expected '!'"
  | .tagExpected => "did not find expected tag URI"
  | .octetExpected => "did not find URI escaped octet"
  | .wrongFirstOctet => "found an incorrect leading UTF-8 octet"
  | .wrongFurtherOctet => "found an incorrect trailing UTF-8 octet"
  | .zeroIndentation => "found an indentation indicator equal to 0"
  | .tabForIndentation => "found a tab character where an indentation space is expected"
  | .unexpectedDocumentMark => "found unexpected document indicator"
  | .unexpectedEnd => "found unexpected end of stream"
  | .unknownEscape => "found unknown escape character"
  | .hexadecimalExpected => "did not find expected hexadecimal number"
  | .noSuchCharacter => "found invalid Unicode character escape code"
  | .tabInIndentation => "found a tab character that violates indentation"
  | .unexpectedColon => "found unexpected ':'"
  | .documentStartExpected => "did not find expected <document start>"
  | .contentExpected => "did not find expected node content"
  | .unknownHandle => "found undefined tag handle"
  | .dashExpected => "did not find expected '-' indicator"
  | .keyExpected => "did not find expected key"
  | .listSeparatorExpected => "did not find expected ',' or ']'"
  | .mappingSeparatorExpected => "did not find expected ',' or '\x7d'"
  | .repeatedVersion => "found duplicate %YAML directive"
  | .otherVersion => "found incompatible YAML document"
  | .repeatedHandle => "found duplicate %TAG directive"

/-- What was being read. -/
inductive Activity where
  | key
  | directive
  | versionDirective
  | tagDirective
  | tagDirectiveStart
  | tagDirectiveHandle
  | tagDirectiveExpansion
  | anchor
  | reference
  | tag
  | tagName
  | block
  | quoted
  | escape
  | plain
  | token
  | node
  | blockNode
  | flowNode
  | blockList
  | blockMapping
  | flowList
  | flowMapping
  deriving DecidableEq, Repr

/-- The phrase that says what was being read. -/
def Activity.message : Activity → String
  | .key => "while scanning a simple key"
  | .directive => "while scanning a directive"
  | .versionDirective => "while scanning a %YAML directive"
  | .tagDirective => "while scanning a %TAG directive"
  | .tagDirectiveStart => "while scanning a tag directive"
  | .tagDirectiveHandle => "while parsing a tag directive"
  | .tagDirectiveExpansion => "while parsing a %TAG directive"
  | .anchor => "while scanning an anchor"
  | .reference => "while scanning an alias"
  | .tag => "while scanning a tag"
  | .tagName => "while parsing a tag"
  | .block => "while scanning a block scalar"
  | .quoted => "while scanning a quoted scalar"
  | .escape => "while parsing a quoted scalar"
  | .plain => "while scanning a plain scalar"
  | .token => "while scanning for the next token"
  | .node => "while parsing a node"
  | .blockNode => "while parsing a block node"
  | .flowNode => "while parsing a flow node"
  | .blockList => "while parsing a block collection"
  | .blockMapping => "while parsing a block mapping"
  | .flowList => "while parsing a flow sequence"
  | .flowMapping => "while parsing a flow mapping"

/-- Why a text is not well formed. -/
inductive Flaw where
  /-- A character that no text may hold, behind so many bytes. -/
  | forbidden (bytes : Nat)
  | form (problem : Problem) (place : Place) (during : Option (Activity × Place))
  /-- An alias that refers to nothing before it. -/
  | unknownAnchor (place : Place)
  deriving DecidableEq, Repr

/-- The sentence that reports why a text is not well formed. The place where an activity began is
left out where it is the place of the problem. -/
def Flaw.message : Flaw → String
  | .forbidden bytes =>
    "control characters are not allowed" ++
      if bytes = 0 then "" else s!" at position {bytes}"
  | .unknownAnchor place => "unknown anchor" ++ place.text
  | .form problem place none => problem.message ++ place.text
  | .form problem place (some (activity, start)) =>
    let begun := if start = place then "" else start.text
    s!"{problem.message}{place.text}, {activity.message}{begun}"

namespace Cursor

/-- Refuses what stands at the cursor, during an activity that began at `start`. -/
def refuse {α : Type} (cursor : Cursor) (problem : Problem) (activity : Activity)
    (start : Place) : Except Flaw α :=
  .error (.form problem cursor.place (some (activity, start)))

/-- Refuses what stands at the cursor. -/
def refuseHere {α : Type} (cursor : Cursor) (problem : Problem) : Except Flaw α :=
  .error (.form problem cursor.place none)

end Cursor

end BlogOperator.Yaml
