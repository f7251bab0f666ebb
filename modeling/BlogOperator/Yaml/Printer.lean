import BlogOperator.Json.Printer
import BlogOperator.Yaml.Plain

/-!
# Writing YAML

`Json.yaml` writes a value as a YAML document: one line for each member and item, indented by two
columns for each mapping around it, the items of a list standing under its name. A text stands
plain where it reads back as that text, in single quotes where it would spell something else, and
in a block of its own where it has several lines.
-/

set_option autoImplicit false

namespace BlogOperator.Yaml

open BlogOperator.Json (Found)

/-- Spellings of truth values in older versions of the format. -/
def olderBooleans : List String := [
  "y", "Y", "yes", "Yes", "YES", "n", "N", "no", "No", "NO",
  "on", "On", "ON", "off", "Off", "OFF"]

/-- Whether a plain scalar would be taken for something else than a text. -/
def spellsValue (text : String) : Bool :=
  olderBooleans.contains text ||
    match resolve text with
    | .text _ => false
    | _ => true

/-- Characters with which a plain scalar does not begin. -/
def leadingIndicators : List Char :=
  ['-', '?', ':', ',', '[', ']', '\x7b', '\x7d', '#', '&', '*', '!', '|', '>', '\'', '"', '%', '@',
    '\u0060']

/-- Whether a character ends a plain scalar before the character that follows it. -/
def breaksPlain (character : Char) (next : Option Char) : Bool :=
  (character = ':' && next.all (· = ' ')) || (character = ' ' && next.all (· = '#'))

/-- Whether a plain scalar would end inside these characters. -/
def endsInside : List Char → Bool
  | [] => false
  | character :: rest => breaksPlain character rest.head? || endsInside rest

/-- Whether a text may stand without quotes. -/
def standsPlain (text : String) : Bool :=
  match text.toList with
  | [] => false
  | first :: rest =>
    first ≠ ' ' && !endsInside (first :: rest) &&
      (!leadingIndicators.contains first ||
        (['-', '?', ':'].contains first && rest.head?.any (· ≠ ' ')))

/-- A text in single quotes, in which a single quote is written twice. -/
def inSingleQuotes (text : String) : String :=
  "'" ++ "''".intercalate (text.splitOn "'") ++ "'"

/-- The mark of a block of several lines: how far it is indented, where the text itself begins with
a space or a line end, and what line ends the text has at its end. -/
def blockMark (text : String) : String :=
  let hint := if text.startsWith " " || text.startsWith "\n" then "2" else ""
  let ending :=
    match text.toList.reverse with
    | '\n' :: '\n' :: _ => "+"
    | '\n' :: _ => ""
    | _ => "-"
  "|" ++ hint ++ ending

/-- Columns before a line of so many levels. -/
def indentation (levels : Nat) : String :=
  String.ofList (List.replicate (2 * levels) ' ')

/-- A text after its name or dash, with the further lines of its block. -/
def textLines (levels : Nat) (text : String) : String × List String :=
  if text.contains '\n' then
    let body := if text.endsWith "\n" then (text.dropEnd 1).copy else text
    (blockMark text, (body.splitOn "\n").map fun line ↦
      if line.isEmpty then "" else indentation levels ++ line)
  else if spellsValue text || !standsPlain text then (inSingleQuotes text, [])
  else (text, [])

mutual

/-- What stands on the line of the name or dash before a value, and the lines below it, where the
members of a mapping and the items of a list are indented by so many levels. -/
def valueLines (forMembers forItems : Nat) : Json → String × List String
  | .null => ("null", [])
  | .bool value => (if value then "true" else "false", [])
  | .number value => (value.text, [])
  | .text value => textLines forMembers value
  | .list [] => ("[]", [])
  | .list items => ("", itemLines forItems items)
  | .object [] => ("\x7b\x7d", [])
  | .object members => ("", memberLines forMembers members)

/-- The lines of the items of a list. The first line of an item follows its dash. -/
def itemLines (levels : Nat) : List Json → List String
  | [] => []
  | item :: rest =>
    let lines :=
      match valueLines (levels + 1) (levels + 1) item with
      | ("", line :: below) => (line.drop (2 * (levels + 1))).copy :: below
      | (first, below) => first :: below
    let dashed :=
      match lines with
      | line :: below => (indentation levels ++ "- " ++ line) :: below
      | [] => []
    dashed ++ itemLines levels rest

/-- The lines of the members of a mapping. -/
def memberLines (levels : Nat) : List (String × Json) → List String
  | [] => []
  | (name, value) :: rest =>
    let (first, below) := valueLines (levels + 1) levels value
    let (key, _) := textLines levels name
    let line := indentation levels ++ key ++ ":" ++ (if first.isEmpty then "" else " " ++ first)
    line :: below ++ memberLines levels rest

end

/-- The lines of a document. -/
def documentLines : Json → List String
  | .object (member :: members) => memberLines 0 (member :: members)
  | .list (item :: items) => itemLines 0 (item :: items)
  | other =>
    let (first, below) := valueLines 1 0 other
    first :: below

end BlogOperator.Yaml

/-- A value as a YAML document. -/
def BlogOperator.Json.yaml (json : Json) : String :=
  String.join ((Yaml.documentLines json).map (· ++ "\n"))
