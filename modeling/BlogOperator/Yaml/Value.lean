import BlogOperator.Text.Utf8
import BlogOperator.Yaml.Typed

/-!
# Documents as values

`Document.value` forgets places, styles and aliases: a document becomes the value that it stands
for. Integers are of 64 bits; mappings must not have a key twice; and there is a limit to how deep
values are nested and to how often nodes are used by their aliases.
-/

set_option autoImplicit false

namespace BlogOperator.Yaml

open BlogOperator.Json (Found)

/-- What a node stands for. -/
inductive Value where
  | nothing
  | bool (value : Bool)
  | number (value : Json.Number)
  | infinity (negative : Bool)
  | undefined
  | text (value : String)
  | list (items : List Value)
  | mapping (entries : List (Value × Value))
  | tagged (tag : String) (value : Value)
  deriving Repr, Inhabited

namespace Value

/-- What kind of thing a value is. -/
def found : Value → Found
  | nothing => .nothing
  | bool value => .bool value
  | number value => .number value
  | infinity negative => .infinity negative
  | undefined => .undefined
  | text value => .text value
  | list _ => .list
  | mapping _ => .object
  | tagged _ _ => .tagged

/-- Whether two values are the same as keys. Zeros are, whatever their signs, and mappings are in
whatever order their entries stand. -/
def isSame : Value → Value → Bool
  | number (.decimal first), number (.decimal second) =>
    first = second || (first.digits = 0 && second.digits = 0)
  | list first, list second =>
    first.length = second.length &&
      (first.attach.zip second).all fun (⟨item, _⟩, other) ↦ item.isSame other
  | mapping first, mapping second =>
    first.length = second.length &&
      first.attach.all fun ⟨(key, value), _⟩ ↦
        second.any fun other ↦ key.isSame other.1 && value.isSame other.2
  | tagged tag value, tagged otherTag other => tag = otherTag && value.isSame other
  | list _, _ => false
  | mapping _, _ => false
  | tagged _ _, _ => false
  | first, second => first.found = second.found
termination_by value => sizeOf value
decreasing_by
  · have := List.sizeOf_lt_of_mem ‹item ∈ first›
    simp only [list.sizeOf_spec]
    omega
  · have := List.sizeOf_lt_of_mem ‹(key, value) ∈ first›
    simp only [Prod.mk.sizeOf_spec] at this
    simp only [mapping.sizeOf_spec]
    omega
  · have := List.sizeOf_lt_of_mem ‹(key, value) ∈ first›
    simp only [Prod.mk.sizeOf_spec] at this
    simp only [mapping.sizeOf_spec]
    omega
  · simp only [tagged.sizeOf_spec]
    omega

/-- The words for a key that stands in a mapping twice. -/
def keyWords : Value → String
  | nothing => "with null key"
  | bool true => "with key `true`"
  | bool false => "with key `false`"
  | number (.integer value) => s!"with key {value}"
  | number (.decimal value) => "with key " ++ value.compact ""
  | infinity negative => if negative then "with key -.inf" else "with key .inf"
  | undefined => "with key .nan"
  | text value => s!"with key {Text.quoted value}"
  | _ => "in YAML map"

end Value

/-! ### Reading -/

/-- A reader of values that counts how often an alias has been followed. -/
abbrev Reading := StateT Nat (Except Fault)

namespace Reading

/-- Refuses a value. -/
def refuse {α : Type} (complaint : Complaint) (path : Path) (place : Place) : Reading α :=
  throw (.wrong complaint path place)

/-- The node that a node stands for. -/
def follow (document : Document) (node : Node) : Reading Node := do
  match node with
  | .reference _ _ =>
    modify (· + 1)
    if 100 * document.root.steps < (← get) then throw .repeatedTooOften
    return node.followed document
  | node => return node

/-- A name without the bang it begins with, unless it is a bang alone. -/
def withoutBang : List UInt8 → List UInt8
  | 0x21 :: octet :: rest => octet :: rest
  | name => name

/-- The name of a local tag. A second bang at its beginning is passed over like the first. -/
def localTag? (tag : Option (List UInt8)) : Option String :=
  (tag.filter isLocalTag).bind fun tag ↦
    (Text.decodeUtf8 (withoutBang (withoutBang tag))).toOption

/-- The value of what a scalar is. -/
def ofFound (found : Found) (path : Path) (place : Place) : Reading Value :=
  match found with
  | .nothing => return .nothing
  | .bool value => return .bool value
  | .number (.integer value) =>
    if value < -9223372036854775808 ∨ 18446744073709551615 < value then
      refuse (.unfit (.wrongType found "any YAML value")) path place
    else return .number (.integer value)
  | .number number => return .number number
  | .infinity negative => return .infinity negative
  | .undefined => return .undefined
  | .text value => return .text value
  | found => refuse (.unfit (.wrongType found "any YAML value")) path place

/-- The value of a node with a tag. A local tag is kept, and no longer says what the value is. -/
def tagged (tag : Option (List UInt8)) (read : Option (List UInt8) → Reading Value) :
    Reading Value :=
  match localTag? tag with
  | some name => Value.tagged name <$> read none
  | none => read tag

/-- One more entry of the mapping that begins at `place`. -/
def entry (read : Path → Node → Reading Value) (path : Path) (place : Place)
    (known : List (Value × Value)) (entry : Node × Node) : Reading (List (Value × Value)) := do
  let key ← read path entry.1
  if let some (known, _) := known.find? fun other ↦ key.isSame other.1 then
    refuse (.repeatedKey known.keyWords) path place
  let value ← read (path ++ [entry.1.step]) entry.2
  return known ++ [(key, value)]

/-- Reads a node, and what is in it by `read` unless it is nested too deep. -/
def node (document : Document) (read : Option (Path → Node → Reading Value)) (path : Path)
    (node : Node) : Reading Value := do
  match ← follow document node with
  | .scalar place properties style text =>
    tagged properties.tag fun tag ↦
      match scalarValue tag style text with
      | .ok found => ofFound found path place
      | .error fault => refuse (.unfit fault) path place
  | .list place properties items =>
    tagged properties.tag fun _ ↦ do
      let some read := read | throw (.nestedTooDeep place)
      let values ← items.zipIdx.mapM fun (item, index) ↦ read (path ++ [.item index]) item
      return .list values
  | .mapping place properties entries =>
    tagged properties.tag fun _ ↦ do
      let some read := read | throw (.nestedTooDeep place)
      return .mapping (← entries.foldlM (entry read path place) [])
  | .reference _ _ => return .nothing
  | .broken flaw => throw (.malformed flaw)

/-- The value of a node in which there are at most so many levels of lists and mappings. -/
def value (document : Document) : (depth : Nat) → Path → Node → Reading Value
  | 0 => node document none
  | depth + 1 => node document (some (value document depth))

end Reading

/-- How many levels of lists and mappings a document may have. -/
def deepest : Nat := 128

/-- The value that a document stands for. -/
def Document.value (document : Document) : Except Fault Value := do
  let (value, _) ← Reading.value document deepest [] document.root 0
  match document.flaw with
  | some flaw => throw (.malformed flaw)
  | none => return value

end BlogOperator.Yaml
