import BlogOperator.Yaml.Flaw
import BlogOperator.Yaml.Plain

/-!
# What can be wrong with a document

A `Fault` is the reason why a document could not be read as what it should be. A value that is wrong
is reported with its path in the document and the place where it begins.
-/

set_option autoImplicit false

namespace BlogOperator.Yaml

/-- A step from a list or a mapping to one of its parts. -/
inductive Step where
  | member (name : String)
  | item (index : Nat)
  /-- To the value of a key that is no scalar. -/
  | unnamed
  deriving DecidableEq, Repr

/-- The way from the root of a document to a value. -/
abbrev Path := List Step

/-- A path in words; the root is a dot. -/
def Path.text (path : Path) : String :=
  let step (before : Option String) : Step → String
    | .member name => (before.map (· ++ ".")).getD "" ++ name
    | .item index => before.getD "." ++ s!"[{index}]"
    | .unnamed => (before.map (· ++ ".")).getD "" ++ "?"
  (path.foldl (fun before next ↦ some (step before next)) none).getD "."

/-- What is wrong with a value. -/
inductive Complaint where
  | unfit (fault : Json.Fault)
  /-- A key that stands in a mapping for a second time, in these words. -/
  | repeatedKey (words : String)
  deriving DecidableEq, Repr

/-- The sentence that reports what is wrong with a value. -/
def Complaint.message : Complaint → String
  | .unfit fault => fault.messageIn wording
  | .repeatedKey words => s!"duplicate entry {words}"

/-- Why a document could not be read. -/
inductive Fault where
  | malformed (flaw : Flaw)
  | wrong (complaint : Complaint) (path : Path) (place : Place)
  | nestedTooDeep (place : Place)
  /-- Nodes are used too often by their aliases. -/
  | repeatedTooOften
  | severalDocuments
  deriving DecidableEq, Repr

/-- The sentence that reports why a document could not be read. -/
def Fault.message : Fault → String
  | .malformed flaw => flaw.message
  | .wrong complaint path place =>
    let path := path.text
    (if path = "." then "" else path ++ ": ") ++ complaint.message ++ place.text
  | .nestedTooDeep place => "recursion limit exceeded" ++ place.text
  | .repeatedTooOften => "repetition limit exceeded"
  | .severalDocuments =>
    "deserializing from YAML containing more than one document is not supported"

end BlogOperator.Yaml
