import BlogOperator.Number.Digit
import BlogOperator.Pattern.Automaton
import BlogOperator.Reconcile.Log

/-!
# Log directives

Users say in a variable how much is to be logged: directives with commas between them, each a
level, or a part of the program with or without one, or a span of its work and a field. A field may
have a value, which is a pattern unless it is a number. `directives` reads them, `complaints` lists
what is said about those that cannot be read, and `shows` says which lines are written.
-/

set_option autoImplicit false

namespace BlogOperator.Launch

open BlogOperator.Number BlogOperator.Text

/-- The variable that holds the directives. -/
def directivesVariable : String := "RUST_LOG"

/-! ### Levels -/

/-- How much is logged at most: nothing at zero, errors at one, and each level that is less
important one further, up to five. -/
abbrev Limit := Nat

/-- The limit at which everything is logged. -/
def unlimited : Limit := 5

/-- The names of the limits. -/
def limitNames : List (String × Limit) :=
  [("off", 0), ("error", 1), ("warn", 2), ("info", 3), ("debug", 4), ("trace", 5)]

/-- The limit that is given by a number, after an optional plus sign. -/
def limitNumber? (text : List Char) : Option Limit :=
  let digits := match text with
    | '+' :: rest => rest
    | characters => characters
  (natural? 10 digits).filter (· ≤ unlimited)

/-- The limit that a text spells, in whatever case; an empty one stands for errors. -/
def limit? (text : List Char) : Option Limit :=
  if text.isEmpty then some 1
  else limitNumber? text <|> limitNames.lookup (String.ofList (text.map Char.toLower))

/-- The lowest limit at which lines of a level are logged. -/
def limitOf : LogLevel → Limit
  | .error => 1
  | .warn => 2
  | .info => 3
  | .debug => 4

/-! ### Directives -/

/-- A field that a directive asks for. -/
structure DirectiveField where
  name : String
  /-- Whether it asks for a value too. -/
  hasValue : Bool
  deriving DecidableEq, Repr

/-- A directive. -/
structure Directive where
  /-- How the parts of the program begin that it is about. -/
  target : Option String := none
  /-- The span that it is about. -/
  span : Option String := none
  field : Option DirectiveField := none
  limit : Limit := unlimited
  deriving DecidableEq, Repr

/-- Why a directive cannot be read. -/
inductive DirectiveFault where
  | unreadable
  /-- What should be a level is none. -/
  | level
  /-- There is no automaton for the value of the field. -/
  | field (fault : PatternFault)
  deriving DecidableEq, Repr

/-- The sentence that reports an unreadable directive. -/
def DirectiveFault.message : DirectiveFault → String
  | .unreadable => "invalid filter directive"
  | .level => "error parsing level filter: expected one of \"off\", \"error\", \"warn\", " ++
      "\"info\", \"debug\", \"trace\", or a number 0-5"
  | .field fault => s!"invalid field filter: {fault.message}"

/-- Reads a field: a name, and a value behind an equals sign. What stands behind a second one is
passed over. -/
def readField (text : List Char) : Except DirectiveFault DirectiveField :=
  let name := String.ofList (text.takeWhile (· != '='))
  match text.dropWhile (· != '=') with
  | [] => .ok ⟨name, false⟩
  | _ :: rest =>
    let value := rest.takeWhile (· != '=')
    if isReal value then .ok ⟨name, true⟩
    else
      match Pattern.check value with
      | .ok () => .ok ⟨name, true⟩
      | .error fault => .error (.field fault)

/-- How far into a directive a reader has come. -/
inductive Stage where
  | start
  /-- In a level, or in the name of a part of the program. -/
  | name
  /-- In the name of a span that begins at this byte. -/
  | span (begun : Nat)
  /-- In a field that begins at this byte. -/
  | field (begun : Nat)
  /-- Behind the field. -/
  | fields
  /-- Behind a span. -/
  | afterSpan
  /-- In a level that begins at this byte. -/
  | level (begun : Nat)
  deriving DecidableEq, Repr

/-- Characters, each with the number of bytes before it. -/
def withOffsets (offset : Nat) : List Char → List (Nat × Char)
  | [] => []
  | character :: rest =>
    (offset, character) :: withOffsets (offset + character.utf8Size) rest

/-- The characters that begin at one of the bytes from one number up to another. -/
def between (text : List Char) (first last : Nat) : List Char :=
  (withOffsets 0 text).filterMap fun (offset, character) ↦
    if first ≤ offset && offset < last then some character else none

/-- Whether a level or a name may begin with a character. -/
def beginsName (character : Char) : Bool :=
  ['-', ':', '_'].contains character || isAlphanumeric character

/-- Takes one more character, the one at this byte. -/
def Stage.next (text : List Char) (reached : Stage × Directive) (offset : Nat)
    (character : Char) : Except DirectiveFault (Stage × Directive) :=
  let (stage, directive) := reached
  let since (begun : Nat) : String := String.ofList (between text begun offset)
  match stage, character with
  | .start, '[' => .ok (.span (offset + 1), directive)
  | .start, other => if beginsName other then .ok (.name, directive) else .error .unreadable
  | .name, '=' => .ok (.level (offset + 1), { directive with target := some (since 0) })
  | .name, '[' => .ok (.span (offset + 1), { directive with target := some (since 0) })
  | .name, _ => .ok (.name, directive)
  | .span begun, ']' => .ok (.afterSpan, { directive with span := some (since begun) })
  | .span begun, '\x7b' =>
    let span := if begun = offset then none else some (since begun)
    .ok (.field (offset + 1), { directive with span })
  | .span begun, _ => .ok (.span begun, directive)
  | .field begun, '\x7d' =>
    if begun = offset then .error .unreadable
    else do return (.fields, { directive with field := ← readField (between text begun offset) })
  | .field begun, _ => .ok (.field begun, directive)
  | .fields, ']' => .ok (.afterSpan, directive)
  | .fields, _ => .error .unreadable
  | .afterSpan, '=' => .ok (.level (offset + 1), directive)
  | .afterSpan, _ => .error .unreadable
  | .level begun, _ => .ok (.level begun, directive)

/-- Reads a directive. Blanks around it are passed over while its parts are looked for, but the
parts are then taken from the directive as it stands, by their bytes. -/
def readDirective (text : List Char) : Except DirectiveFault Directive := do
  let (stage, directive) ← (withOffsets 0 (trim text)).foldlM
    (fun reached (offset, character) ↦ Stage.next text reached offset character) (.start, {})
  match stage with
  | .name =>
    match limit? text with
    | some limit => return { directive with limit }
    | none => return { directive with target := some (String.ofList text) }
  | .afterSpan => return directive
  | .level begun =>
    let level := (withOffsets 0 text).filterMap fun (offset, character) ↦
      if begun ≤ offset then some character else none
    if level.isEmpty then return directive
    match limit? level with
    | some limit => return { directive with limit }
    | none => throw .level
  | _ => throw .unreadable

/-- The texts of directives. -/
def directiveTexts (text : String) : List String :=
  (text.splitOn ",").filter (!·.isEmpty)

/-- The directives that can be read. -/
def directives (text : String) : List Directive :=
  (directiveTexts text).filterMap fun directive ↦ (readDirective directive.toList).toOption

/-- What is said about the directives that cannot be read. -/
def complaints (text : String) : List String :=
  (directiveTexts text).filterMap fun directive ↦
    match readDirective directive.toList with
    | .ok _ => none
    | .error fault => some s!"ignoring `{directive}`: {fault.message}"

/-! ### Lines that are written -/

/-- The name under which the program writes its log. -/
def logTarget : String := "ghost_operator"

/-- The field whose name a directive asks for in the lines of the program, and the limit that it
sets for them. -/
def Directive.fieldLimit? (directive : Directive) : Option (String × Limit) :=
  match directive.span, directive.field with
  | none, some ⟨name, false⟩ =>
    if directive.target = some logTarget then some (name, directive.limit) else none
  | _, _ => none

/-- The names of the fields of a line, its message being one of them. -/
def fieldNames (line : LogLine) : List String :=
  "message" :: line.fields.map (·.1)

/-- The limit for a line: that of the directives that ask for one of its fields, of those the one
whose field is last by its name, and of several for one field the last one. The lines that no such
directive is about are limited to information, whatever else directives say. -/
def lineLimit (directives : List Directive) (line : LogLine) : Limit :=
  let limits := (directives.filterMap Directive.fieldLimit?).filter fun (name, _) ↦
    (fieldNames line).contains name
  let last (best : Option (String × Limit)) (next : String × Limit) :=
    match best with
    | some known => if next.1 < known.1 then some known else some next
    | none => some next
  ((limits.foldl last none).map (·.2)).getD (limitOf .info)

/-- Whether a line is written under these directives. -/
def shows (directives : List Directive) (line : LogLine) : Bool :=
  limitOf line.level ≤ lineLimit directives line

end BlogOperator.Launch
