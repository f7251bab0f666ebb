import BlogOperator.Failure

/-!
# Addresses

An `Address` is the path and query of a request. `Address.ofText?` takes an address apart: the query
begins at the first question mark, and what follows a number sign is dropped. Names of objects go
into addresses as they are, so that a name may hold characters that no address may hold.
-/

set_option autoImplicit false

namespace BlogOperator.Http

/-- A path, and a query if there is a question mark. -/
structure Address where
  path : String
  query : Option String
  deriving DecidableEq, Repr, Inhabited

namespace Address

/-- Characters beyond ASCII may stand anywhere in an address. -/
def isForeign (character : Char) : Bool :=
  '\u007f' < character

/-- The visible characters of ASCII. -/
def isVisible (character : Char) : Bool :=
  ' ' < character && character < '\u007f'

/-- The visible characters of ASCII that may not stand in a path as they are. -/
def pathExceptions : List Char := ['#', '<', '>', '?', '\u0060']

/-- The visible characters of ASCII that may not stand in a query as they are. -/
def queryExceptions : List Char := ['"', '#', '<', '>']

/-- Whether a character may stand in a path. -/
def isPathCharacter (character : Char) : Bool :=
  isForeign character || (isVisible character && !pathExceptions.contains character)

/-- Whether a character may stand in a query. -/
def isQueryCharacter (character : Char) : Bool :=
  isForeign character || (isVisible character && !queryExceptions.contains character)

/-- An address as it is written. -/
def text (address : Address) : String :=
  match address.query with
  | none => address.path
  | some query => address.path ++ "?" ++ query

/-- Takes an address apart, unless it holds a character that it may not hold. -/
def ofText? (text : String) : Except RequestFault Address :=
  let characters := text.toList.takeWhile (· ≠ '#')
  let path := characters.takeWhile (· ≠ '?')
  let query := characters.drop (path.length + 1)
  if path.all isPathCharacter && query.all isQueryCharacter then
    .ok ⟨String.ofList path,
      if path.length < characters.length then some (String.ofList query) else none⟩
  else .error .invalidAddress

end Address

end BlogOperator.Http
