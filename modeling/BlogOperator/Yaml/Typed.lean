import BlogOperator.Yaml.Fault
import BlogOperator.Yaml.Node

/-!
# Nodes as values of one type

`Node.text`, `Node.int32` and `Node.bool` read a node as a value of one type, and `scalarValue` says
what a scalar is by itself. A plain scalar is what it spells, whatever its tag, unless its tag is
that of another type; a scalar in another style is a text, unless its tag is that of a type.
-/

set_option autoImplicit false

namespace BlogOperator.Yaml

open BlogOperator.Json (Found)

/-! ### Tags -/

/-- The tag of a type that every document knows. -/
def typeTag (name : String) : List UInt8 :=
  ("tag:yaml.org,2002:" ++ name).toUTF8.data.toList

/-- Whether a tag belongs to its document alone. -/
def isLocalTag (tag : List UInt8) : Bool :=
  tag.head? = some 0x21

/-! ### Scalars -/

/-- What a scalar is. -/
def scalarValue (tag : Option (List UInt8)) (style : Style) (text : String) :
    Except Json.Fault Found :=
  let spelled (found? : Option Found) (expected : String) : Except Json.Fault Found :=
    match found? with
    | some found => .ok found
    | none => .error (.wrongValue (.text text) expected)
  let plain : Found := if style = .plain then resolve text else .text text
  match tag with
  | none => .ok plain
  | some tag =>
    if tag = typeTag "bool" then spelled (Found.bool <$> boolean? text) "a boolean"
    else if tag = typeTag "int" then
      spelled ((Found.number ∘ .integer) <$> integer? text) "an integer"
    else if tag = typeTag "float" then spelled (real? text) "a float"
    else if tag = typeTag "null" then
      spelled (if nullSpellings.contains text then some .nothing else none) "null"
    else if isLocalTag tag then .ok plain
    else .ok (.text text)

/-- Whether a scalar can be a value of the type with a tag, judging by its style. -/
def mayBe (name : String) (properties : Properties) (style : Style) : Bool :=
  style = .plain || (style = .literal && properties.tag = some (typeTag name))

/-! ### Nodes -/

namespace Node

/-- The node that an alias stands for. Any other node stands for itself. -/
def followed (document : Document) : Node → Node
  | reference place anchor => (document.definition? anchor).getD (.empty place)
  | other => other

/-- The step to the value of a key. -/
def step : Node → Step
  | scalar _ _ _ text => .member text
  | _ => .unnamed

/-- Refuses a node at a path because something else was expected. -/
def mismatch {α : Type} (expected : String) (path : Path) (node : Node) : Except Fault α :=
  let wrong (found : Except Json.Fault Found) (place : Place) : Except Fault α :=
    match found with
    | .ok found => .error (.wrong (.unfit (.wrongType found expected)) path place)
    | .error fault => .error (.wrong (.unfit fault) path place)
  match node with
  | scalar place properties style text => wrong (scalarValue properties.tag style text) place
  | list place _ _ => wrong (.ok .list) place
  | mapping place _ _ => wrong (.ok .object) place
  | reference place _ => wrong (.ok .nothing) place
  | broken flaw => .error (.malformed flaw)

/-- A text: any scalar. -/
def text (expected : String) (path : Path) : Node → Except Fault String
  | scalar _ _ _ text => .ok text
  | other => other.mismatch expected path

/-- A whole number of 32 bits with a sign. -/
def int32 (path : Path) : Node → Except Fault Int32
  | node@(scalar place properties style text) =>
    match if mayBe "int" properties style then integer? text else none with
    | none => node.mismatch "i32" path
    | some value =>
      if value < -9223372036854775808 ∨ 9223372036854775807 < value then
        node.mismatch "i32" path
      else if -2147483648 ≤ value ∧ value ≤ 2147483647 then .ok (Int32.ofInt value)
      else .error (.wrong (.unfit (.wrongValue (.number (.integer value)) "i32")) path place)
  | other => other.mismatch "i32" path

/-- True or false. -/
def bool (path : Path) : Node → Except Fault Bool
  | node@(scalar _ properties style text) =>
    match if mayBe "bool" properties style then boolean? text else none with
    | some value => .ok value
    | none => node.mismatch "a boolean" path
  | other => other.mismatch "a boolean" path

/-- Accepts any node that is well formed. -/
def ignore (node : Node) : Except Fault Unit :=
  match node.flaw? with
  | some flaw => .error (.malformed flaw)
  | none => .ok ()

end Node

end BlogOperator.Yaml
