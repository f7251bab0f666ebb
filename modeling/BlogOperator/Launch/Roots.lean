import BlogOperator.Key.Certificate
import BlogOperator.Launch.Surroundings
import BlogOperator.Text.Section

/-!
# Certificates of the system

Where nobody is named who vouches for a server, those do for whom the system has certificates.
Variables name a file and directories with other ones instead; `Roots.named` is what is found there,
certificates and faults, and `Surroundings.checkRoots` says why none of it is of use. A fault
matters only where there is no certificate at all.
-/

set_option autoImplicit false

namespace BlogOperator.Launch

open BlogOperator.Key BlogOperator.Text

/-- The variable with the path of a file of certificates. -/
def rootFileVariable : String := "SSL_CERT_FILE"

/-- The variable with the paths of directories of certificates. -/
def rootDirectoriesVariable : String := "SSL_CERT_DIR"

/-! ### Faults -/

/-- Why certificates of the system are not to be had. -/
inductive RootFault where
  | unreadableFile (path : String) (fault : SystemFault)
  | unreadableDirectory (path : String) (fault : SystemFault)
  /-- The sections of a file cannot be read. -/
  | unreadableSection (fault : SectionFault)
  deriving DecidableEq, Repr

namespace RootFault

/-- What went wrong with a path, part by part. -/
def pathDetails (path : String) (fault : SystemFault) : String :=
  "Io \x7b inner: " ++ fault.details ++ ", path: " ++ quoted path ++ " \x7d"

/-- All that is known of a fault, part by part. -/
def details (fault : RootFault) : String :=
  let (activity, kind) := match fault with
    | unreadableFile path fault => ("failed to read PEM from file", pathDetails path fault)
    | unreadableDirectory path fault => ("opening directory", pathDetails path fault)
    | unreadableSection fault => ("failed to read PEM from file", s!"Pem({fault.details})")
  "Error \x7b context: " ++ quoted activity ++ ", kind: " ++ kind ++ " \x7d"

end RootFault

/-- Why nobody vouches for a server. -/
inductive RootsFault where
  | none (faults : List RootFault)
  /-- There are certificates, so many of them, and none is valid. -/
  | invalid (count : Nat)
  deriving DecidableEq, Repr

/-- The sentence that reports why nobody vouches for a server. -/
def RootsFault.message : RootsFault → String
  | none faults =>
    let details := ", ".intercalate (faults.map RootFault.details)
    s!"no native root CA certificates found (errors: [{details}])"
  | invalid count => s!"no valid native root CA certificates found ({count} invalid)"

/-! ### Files and directories -/

/-- Certificates that have been found, and what could not be read. -/
structure Roots where
  certificates : List (List UInt8) := []
  faults : List RootFault := []
  deriving DecidableEq, Repr

/-- Whether the name of a file is that of a certificate: eight hexadecimal digits, a point and a
digit. -/
def isRootName (name : String) : Bool :=
  match name.toList.drop 8 with
  | [point, digit] =>
    let isHexDigit (character : Char) : Bool :=
      character.isDigit || ('a' ≤ character.toLower && character.toLower ≤ 'f')
    (name.toList.take 8).all isHexDigit && point = '.' && digit.isDigit
  | _ => false

namespace Roots

/-- What is found in one place or another. -/
def append (first second : Roots) : Roots :=
  ⟨first.certificates ++ second.certificates, first.faults ++ second.faults⟩

/-- What is found in a file. -/
def inFile (surroundings : Surroundings) (path : String) : Roots :=
  match surroundings.files path with
  | .error fault => { faults := [.unreadableFile path fault] }
  | .ok bytes =>
    let (sections, fault) := sections bytes
    { certificates := (sections.filter (·.kind = .certificate)).map (·.contents)
      faults := (fault.map .unreadableSection).toList }

/-- What is found in a directory. -/
def inDirectory (surroundings : Surroundings) (path : String) : Roots :=
  match surroundings.directories path with
  | .error fault => { faults := [.unreadableDirectory path fault] }
  | .ok names =>
    ((names.filter isRootName).map fun name ↦ inFile surroundings (path ++ "/" ++ name)).foldl
      append {}

/-- What is found where variables say that there are certificates, if any does. -/
def named (surroundings : Surroundings) : Option Roots :=
  let file := surroundings.environment rootFileVariable
  let directories := surroundings.environment rootDirectoriesVariable
  if file.isNone && directories.isNone then none
  else
    let places := file.toList.map (inFile surroundings) ++
      (directories.toList.flatMap (·.splitOn ":")).map (inDirectory surroundings)
    some (places.foldl append {})

end Roots

/-- Checks that somebody vouches for a server: one for whom there is a certificate where variables
say so, or else one whom the system names. -/
def Surroundings.checkRoots (surroundings : Surroundings) : Except RootsFault Unit :=
  match Roots.named surroundings with
  | none => .ok ()
  | some roots =>
    let certificates := roots.certificates.eraseDups
    if certificates.isEmpty then .error (.none roots.faults)
    else if certificates.any (fun certificate ↦ (Certificate.checkAnchor certificate).isOk) then
      .ok ()
    else .error (.invalid certificates.length)

end BlogOperator.Launch
