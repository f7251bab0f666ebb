import BlogOperator.Http.Address

/-!
# Locations of servers

A `Uri` names a server: by its authority alone, by a path on a server that is known already, or in
full with a scheme, an authority and a path. `Uri.ofText` takes a location apart and `Uri.text` puts
it together.
-/

set_option autoImplicit false

namespace BlogOperator.Http

/-- Why a text is not the location of a server. -/
inductive UriFault where
  | empty
  | tooLong
  | longScheme
  | invalidCharacter
  | invalidAuthority
  | invalidFormat
  deriving DecidableEq, Repr

/-- The phrase that reports a fault. -/
def UriFault.message : UriFault → String
  | .empty => "empty string"
  | .tooLong => "uri too long"
  | .longScheme => "scheme too long"
  | .invalidCharacter => "invalid uri character"
  | .invalidAuthority => "invalid authority"
  | .invalidFormat => "invalid format"

/-- The location of a server. -/
inductive Uri where
  | host (authority : String)
  | path (address : Address)
  | asterisk
  | full (scheme authority : String) (address : Address)
  deriving DecidableEq, Repr, Inhabited

namespace Uri

/-- The scheme of a location, if it has one. -/
def scheme? : Uri → Option String
  | full scheme _ _ => some scheme
  | _ => none

/-- A location as it is written. In full, an empty path is written as a slash. -/
def text : Uri → String
  | host authority => authority
  | path address => address.text
  | asterisk => "*"
  | full scheme authority address =>
    let path := if address.path.isEmpty then "/" else address.path
    scheme ++ "://" ++ authority ++ { address with path }.text

/-! ### Schemes -/

/-- Whether a character may stand in a scheme. -/
def isSchemeCharacter (character : Char) : Bool :=
  character.isAlphanum || ['+', '-', '.', '~'].contains character

/-- The length of the longest scheme. -/
def longestScheme : Nat := 64

/-- The scheme that a location begins with, and what follows its slashes. The two schemes of the
protocol may be written in capitals. -/
def splitScheme (characters : List Char) : Except UriFault (Option String × List Char) :=
  let scheme := characters.takeWhile isSchemeCharacter
  let rest := characters.drop scheme.length
  if rest.take 3 ≠ [':', '/', '/'] then .ok (none, characters)
  else
    let name := String.ofList scheme
    let common := String.ofList (scheme.map Char.toLower)
    if common = "http" || common = "https" then .ok (some common, rest.drop 3)
    else if longestScheme < scheme.length then .error .longScheme
    else .ok (some name, rest.drop 3)

/-! ### Authorities -/

/-- Whether a character may stand in an authority, brackets, colons and the at sign included. -/
def isAuthorityCharacter (character : Char) : Bool :=
  character.isAlphanum || "!$&'()*+,-.:;=@[]_~".toList.contains character

/-- What has been seen of an authority. A colon and a percent sign before an at sign or in brackets
do not count. -/
structure Authority where
  colons : Nat := 0
  isOpened : Bool := false
  isClosed : Bool := false
  hasPercent : Bool := false
  endsWithAt : Bool := false

/-- Takes one more character of an authority. -/
def Authority.push (seen : Authority) (character : Char) : Except UriFault Authority :=
  let seen := { seen with endsWithAt := false }
  match character with
  | ':' =>
    if 8 ≤ seen.colons then .error .invalidAuthority
    else .ok { seen with colons := seen.colons + 1 }
  | '[' =>
    if seen.hasPercent || seen.isOpened then .error .invalidAuthority
    else .ok { seen with isOpened := true }
  | ']' =>
    if !seen.isOpened || seen.isClosed then .error .invalidAuthority
    else .ok { seen with isClosed := true, colons := 0, hasPercent := false }
  | '@' => .ok { seen with colons := 0, hasPercent := false, endsWithAt := true }
  | '%' => .ok { seen with hasPercent := true }
  | character =>
    if isAuthorityCharacter character then .ok seen else .error .invalidCharacter

/-- Whether what has been seen is no authority. -/
def Authority.isWrong (seen : Authority) : Bool :=
  seen.isOpened != seen.isClosed || 1 < seen.colons || seen.endsWithAt || seen.hasPercent

/-- The authority that a location begins with, and what follows it. -/
def splitAuthority (characters : List Char) : Except UriFault (String × List Char) := do
  let authority := characters.takeWhile fun character ↦ !(['/', '?', '#'].contains character)
  let seen ← authority.foldlM Authority.push {}
  if seen.isWrong then throw .invalidAuthority
  return (String.ofList authority, characters.drop authority.length)

/-! ### Locations -/

/-- The address in what follows an authority. -/
def addressOf (characters : List Char) : Except UriFault Address :=
  (Address.ofText? (String.ofList characters)).mapError fun _ ↦ .invalidCharacter

/-- Takes a location apart that is more than one character long and does not begin with a slash. -/
def ofCharacters (characters : List Char) : Except UriFault Uri := do
  let (scheme, rest) ← splitScheme characters
  if rest.isEmpty then throw .empty
  let (authority, rest) ← splitAuthority rest
  match scheme with
  | none => if rest.isEmpty then return .host authority else throw .invalidFormat
  | some scheme =>
    if authority.isEmpty then throw .invalidFormat
    return .full scheme authority (← addressOf rest)

/-- The bytes of the longest location. -/
def longest : Nat := 65534

/-- Takes a location apart. -/
def ofText (text : String) : Except UriFault Uri :=
  if longest < text.utf8ByteSize then .error .tooLong
  else
    match text.toList with
    | [] => .error .empty
    | ['*'] => .ok .asterisk
    | '/' :: rest => .path <$> addressOf ('/' :: rest)
    | [character] => do
      let (authority, rest) ← splitAuthority [character]
      if rest.isEmpty then return .host authority else throw .invalidCharacter
    | characters => ofCharacters characters

end Uri

end BlogOperator.Http
