import BlogOperator.Time.Instant

/-!
# Surroundings

What the program finds where it runs: variables, files and the time of day. `Surroundings.read`
says what a file holds, and `Surroundings.startFault` why another program cannot be started: none is
there that could be, so what is found under its name is never more than a file.
-/

set_option autoImplicit false

namespace BlogOperator.Launch

open BlogOperator.Time

/-! ### Faults of the system -/

/-- Why the system refuses a file. -/
inductive SystemFault where
  | missing
  | forbidden
  /-- Something on the way to the file is no directory. -/
  | notDirectory
  | isDirectory
  | nameTooLong
  deriving DecidableEq, Repr

namespace SystemFault

/-- The number of a fault. -/
def number : SystemFault → Nat
  | missing => 2
  | forbidden => 13
  | notDirectory => 20
  | isDirectory => 21
  | nameTooLong => 36

/-- The name of the kind of a fault. -/
def kind : SystemFault → String
  | missing => "NotFound"
  | forbidden => "PermissionDenied"
  | notDirectory => "NotADirectory"
  | isDirectory => "IsADirectory"
  | nameTooLong => "InvalidFilename"

/-- The phrase that reports a fault. -/
def phrase : SystemFault → String
  | missing => "No such file or directory"
  | forbidden => "Permission denied"
  | notDirectory => "Not a directory"
  | isDirectory => "Is a directory"
  | nameTooLong => "File name too long"

/-- The sentence that reports a fault. -/
def message (fault : SystemFault) : String :=
  s!"{fault.phrase} (os error {fault.number})"

/-- All that is known of a fault, part by part. -/
def details (fault : SystemFault) : String :=
  s!"Os \x7b code: {fault.number}, kind: {fault.kind}, message: \"" ++ fault.phrase ++ "\" \x7d"

end SystemFault

/-! ### Programs -/

/-- A program to be started, with its arguments and the variables that are set for it. -/
structure Program where
  command : String
  arguments : List String := []
  /-- The variables; of several with one name the last counts. -/
  settings : List (String × String) := []
  deriving DecidableEq, Repr

/-- Why a program cannot be started. -/
inductive ProgramFault where
  /-- Its command line holds the character that ends texts. -/
  | terminator
  | system (fault : SystemFault)
  deriving DecidableEq, Repr

namespace ProgramFault

/-- The sentence that reports a fault. -/
def message : ProgramFault → String
  | terminator => "nul byte found in provided data"
  | system fault => fault.message

/-- All that is known of a fault, part by part. -/
def details (fault : ProgramFault) : String :=
  match fault with
  | terminator => "Error \x7b kind: InvalidInput, message: \"" ++ fault.message ++ "\" \x7d"
  | system fault => fault.details

end ProgramFault

/-! ### Surroundings -/

/-- What the program finds when it starts. -/
structure Surroundings where
  environment : String → Option String
  /-- What a file holds, or why it cannot be read. -/
  files : String → Except SystemFault (List UInt8)
  /-- The names of what a directory holds, or why it cannot be read. -/
  directories : String → Except SystemFault (List String)
  now : Instant

/-- Whether a text holds the character that ends texts outside of this program. -/
def hasTerminator (text : String) : Bool :=
  text.toList.contains '\x00'

namespace Program

/-- The value of a variable that is set for a program. -/
def setting? (program : Program) (name : String) : Option String :=
  program.settings.reverse.lookup name

/-- All texts that are handed to a program. -/
def texts (program : Program) : List String :=
  let names := (program.settings.map Prod.fst).eraseDups
  program.command :: program.arguments ++
    names.flatMap fun name ↦ name :: (program.setting? name).toList

end Program

/-- The variable with the directories in which programs are looked for. -/
def searchVariable : String := "PATH"

/-- The directories in which programs are looked for if none are given. -/
def standardDirectories : String := "/bin:/usr/bin"

namespace Surroundings

/-- What a file holds, or the sentence that reports why it cannot be read. -/
def read (surroundings : Surroundings) (path : String) : Except String (List UInt8) :=
  if hasTerminator path then .error "file name contained an unexpected NUL byte"
  else (surroundings.files path).mapError SystemFault.message

/-- Where a program is looked for: in the directories, unless its command is a path itself. -/
def commandPaths (surroundings : Surroundings) (program : Program) : List String :=
  let command := program.command
  if command.isEmpty then []
  else if command.toList.contains '/' then [command]
  else
    let named := program.setting? searchVariable <|> surroundings.environment searchVariable
    ((named.getD standardDirectories).splitOn ":").map fun directory ↦
      if directory.isEmpty then command else directory ++ "/" ++ command

/-- Why what is found under a path cannot be started. -/
def pathFault (surroundings : Surroundings) (path : String) : SystemFault :=
  match surroundings.files path with
  | .ok _ => .forbidden
  | .error .isDirectory => .forbidden
  | .error fault => fault

/-- Why a program cannot be started. Of several paths one that is forbidden counts most. -/
def startFault (surroundings : Surroundings) (program : Program) : ProgramFault :=
  if program.texts.any hasTerminator then .terminator
  else
    let faults := (surroundings.commandPaths program).map surroundings.pathFault
    .system (if faults.contains .forbidden then .forbidden else faults.getLastD .missing)

end Surroundings

end BlogOperator.Launch
