import BlogOperator.Json.Printer

/-!
# Log lines

What the controller tells about its work while it goes on: a level, a message and named values.
-/

set_option autoImplicit false

namespace BlogOperator

/-- How important a log line is. -/
inductive LogLevel where
  | debug
  | info
  | warn
  | error
  deriving DecidableEq, Repr, Inhabited

/-- The written name of a level. -/
def LogLevel.name : LogLevel → String
  | debug => "DEBUG"
  | info => "INFO"
  | warn => "WARN"
  | error => "ERROR"

/-- A line of the log. -/
structure LogLine where
  level : LogLevel
  message : String
  fields : Json.Members := []
  deriving BEq, Repr, Inhabited

/-- A log line as it is written, under the name of the program. Texts stand there as they are. -/
def LogLine.text (line : LogLine) (target : String) : String :=
  let field (field : String × Json) : String :=
    let value := match field.2 with
      | .text value => value
      | other => other.compact
    s!" {field.1}={value}"
  s!"{line.level.name} {target}: {line.message}" ++ String.join (line.fields.map field)

end BlogOperator
