import BlogOperator.Yaml.Flaw

/-!
# Tokens of YAML

The words of a YAML text: punctuation, scalars, names, and the beginnings and ends of blocks, which
are not written but follow from the indentation.
-/

set_option autoImplicit false

namespace BlogOperator.Yaml

/-- How a scalar is written. -/
inductive Style where
  | plain
  | singleQuoted
  | doubleQuoted
  /-- A block that keeps its lines. -/
  | literal
  /-- A block whose lines are joined. -/
  | folded
  deriving DecidableEq, Repr, Inhabited

/-- A word of a YAML text. -/
inductive Token where
  | textEnd
  | version (major minor : Nat)
  | handle (name : String) (expansion : List UInt8)
  | documentStart
  | documentEnd
  | blockListStart
  | blockMappingStart
  | blockEnd
  | flowListStart
  | flowListEnd
  | flowMappingStart
  | flowMappingEnd
  | item
  | comma
  | key
  | value
  | reference (name : String)
  | anchor (name : String)
  | tag (handle : String) (name : List UInt8)
  | scalar (text : String) (style : Style)
  /-- From here on the text is not well formed. -/
  | broken (flaw : Flaw)
  deriving DecidableEq, Repr, Inhabited

/-- A token with the place where it begins and the place where the text goes on. -/
structure PlacedToken where
  token : Token
  start : Place
  stop : Place
  deriving DecidableEq, Repr, Inhabited

end BlogOperator.Yaml
