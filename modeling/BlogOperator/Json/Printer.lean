import BlogOperator.Json.Basic
import BlogOperator.Text.Quoted

/-!
# Compact JSON text

`Json.compact` writes a value without any blanks. Inside a text the quote, the backslash and the
control characters are escaped and every other character stands for itself.
-/

set_option autoImplicit false

namespace BlogOperator.Json

open BlogOperator.Text

/-- One character as it stands inside a written text. -/
def escaped (character : Char) : String :=
  match character with
  | '"' => "\\\""
  | '\\' => "\\\\"
  | '\u0008' => "\\b"
  | '\u000c' => "\\f"
  | '\n' => "\\n"
  | '\u000d' => "\\r"
  | '\t' => "\\t"
  | other =>
    if other < ' ' then
      let digits := (hexadecimal other.toNat).toList
      "\\u" ++ String.ofList (List.replicate (4 - digits.length) '0' ++ digits)
    else other.toString

/-- A text between quotes. -/
def writtenText (text : String) : String :=
  "\"" ++ String.join (text.toList.map escaped) ++ "\""

/-- A number as it is written. -/
def Number.text : Number → String
  | .integer value => toString value
  | .decimal value => value.compact "+"

mutual

/-- A value without blanks. -/
def compact : Json → String
  | .null => "null"
  | .bool value => if value then "true" else "false"
  | .number value => value.text
  | .text value => writtenText value
  | .list items => "[" ++ ",".intercalate (compactItems items) ++ "]"
  | .object members => "\x7b" ++ ",".intercalate (compactMembers members) ++ "\x7d"

/-- The values of a list, each without blanks. -/
def compactItems : List Json → List String
  | [] => []
  | item :: rest => compact item :: compactItems rest

/-- The members of an object, each a name, a colon and a value. -/
def compactMembers : List (String × Json) → List String
  | [] => []
  | (name, value) :: rest => (writtenText name ++ ":" ++ compact value) :: compactMembers rest

end

end BlogOperator.Json
