import BlogOperator.Json.Basic
import BlogOperator.Text.Quoted
import BlogOperator.Time.Reader

/-!
# What can be wrong with a value

A `Fault` is the reason why a value or a text could not be read as what it should be: the text is
not well formed, or a value is of the wrong kind, out of range, missing or there twice. A
`Misreading` is a fault with the place in the text where it was noticed; a fault in a value that
was not read from text has no place.
-/

set_option autoImplicit false

namespace BlogOperator.Json

open BlogOperator.Text BlogOperator.Time

/-- What was found where something else should be. -/
inductive Found where
  | nothing
  | bool (value : Bool)
  | number (value : Number)
  /-- A decimal beyond all others. -/
  | infinity (negative : Bool)
  /-- A decimal that is no number. -/
  | undefined
  | text (value : String)
  | list
  | object
  /-- A value with a tag of its own. -/
  | tagged
  deriving DecidableEq, Repr

/-- What kind of thing a value is. -/
def found : Json → Found
  | .null => .nothing
  | .bool value => .bool value
  | .number value => .number value
  | .text value => .text value
  | .list _ => .list
  | .object _ => .object

/-- What keeps a text from being well formed. -/
inductive SyntaxFault where
  | unfinishedList
  | unfinishedObject
  | unfinishedText
  | unfinishedValue
  | colonExpected
  | listSeparatorExpected
  | objectSeparatorExpected
  | wordExpected
  | valueExpected
  | invalidEscape
  | invalidNumber
  | numberTooLarge
  | loneSurrogate
  | unfinishedEscape
  | controlCharacter
  | nameExpected
  | trailingComma
  | trailingCharacters
  | nestedTooDeep
  deriving DecidableEq, Repr

/-- The phrase that reports a fault of form. -/
def SyntaxFault.message : SyntaxFault → String
  | .unfinishedList => "EOF while parsing a list"
  | .unfinishedObject => "EOF while parsing an object"
  | .unfinishedText => "EOF while parsing a string"
  | .unfinishedValue => "EOF while parsing a value"
  | .colonExpected => "expected `:`"
  | .listSeparatorExpected => "expected `,` or `]`"
  | .objectSeparatorExpected => "expected `,` or `\x7d`"
  | .wordExpected => "expected ident"
  | .valueExpected => "expected value"
  | .invalidEscape => "invalid escape"
  | .invalidNumber => "invalid number"
  | .numberTooLarge => "number out of range"
  | .loneSurrogate => "lone leading surrogate in hex escape"
  | .unfinishedEscape => "unexpected end of hex escape"
  | .controlCharacter =>
    "control character (\\u0000-\\u001F) found while parsing a string"
  | .nameExpected => "key must be a string"
  | .trailingComma => "trailing comma"
  | .trailingCharacters => "trailing characters"
  | .nestedTooDeep => "recursion limit exceeded"

/-- Why a value could not be read. -/
inductive Fault where
  /-- A value of another kind than expected. -/
  | wrongType (found : Found) (expected : String)
  /-- A value of the right kind that is not acceptable. -/
  | wrongValue (found : Found) (expected : String)
  /-- A list or object with the wrong number of entries. -/
  | wrongLength (length : Nat) (expected : String)
  | unknownVariant (name : String) (known : List String)
  | unknownMember (name : String) (known : List String)
  | missingMember (name : String)
  | repeatedMember (name : String)
  | unreadableTime (fault : TimeFault)
  /-- Seconds and nanoseconds whose sum is no duration. -/
  | durationOverflow
  | malformed (fault : SyntaxFault)
  deriving DecidableEq, Repr

/-- How a data format words what it found: its name for an absent value, its integers and its
decimals. -/
structure Wording where
  nothing : String
  integer : Int → String
  decimal : BlogOperator.Number.Decimal → String

/-- The wording for JSON. -/
def Wording.json : Wording :=
  ⟨"null", fun value ↦ s!"integer `{value}`", Number.Decimal.compact "+"⟩

/-- The words for what was found. -/
def Found.message (wording : Wording) : Found → String
  | .nothing => wording.nothing
  | .bool value => "boolean `" ++ (if value then "true" else "false") ++ "`"
  | .number (.integer value) => wording.integer value
  | .number (.decimal value) => "floating point `" ++ wording.decimal value ++ "`"
  | .infinity negative => if negative then "floating point `-inf`" else "floating point `inf`"
  | .undefined => "floating point `NaN`"
  | .text value => "string " ++ quoted value
  | .list => "sequence"
  | .object => "map"
  | .tagged => "enum"

/-- A choice of names as it is offered to the reader of a message. -/
def offered : List String → String
  | [only] => s!"`{only}`"
  | [first, second] => s!"`{first}` or `{second}`"
  | names => "one of " ++ ", ".intercalate (names.map fun name ↦ s!"`{name}`")

/-- The sentence that reports a fault. -/
def Fault.messageIn (wording : Wording) : Fault → String
  | .wrongType found expected => s!"invalid type: {found.message wording}, expected {expected}"
  | .wrongValue found expected => s!"invalid value: {found.message wording}, expected {expected}"
  | .wrongLength length expected => s!"invalid length {length}, expected {expected}"
  | .unknownVariant name known => s!"unknown variant `{name}`, expected {offered known}"
  | .unknownMember name known => s!"unknown field `{name}`, expected {offered known}"
  | .missingMember name => s!"missing field `{name}`"
  | .repeatedMember name => s!"duplicate field `{name}`"
  | .unreadableTime fault => fault.message
  | .durationOverflow => "overflow deserializing Duration"
  | .malformed fault => fault.message

/-- The sentence that reports a fault in JSON. -/
def Fault.message (fault : Fault) : String :=
  fault.messageIn .json

/-- A place in a text: a line, counted from one, and the bytes of it that lie before the place. -/
structure Position where
  line : Nat
  column : Nat
  deriving DecidableEq, Repr, Inhabited

/-- A fault and where it was noticed. -/
structure Misreading where
  fault : Fault
  place : Option Position
  deriving DecidableEq, Repr

/-- The sentence that reports a fault in a text. -/
def Misreading.message (misreading : Misreading) : String :=
  match misreading.place with
  | none => misreading.fault.message
  | some place =>
    s!"{misreading.fault.message} at line {place.line} column {place.column}"

end BlogOperator.Json
