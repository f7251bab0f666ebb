import BlogOperator.Json.Record

/-!
# Objects of an open schema

Objects of the cluster's interface are read leniently: a member may be missing or null, members
that the schema does not know are passed over, and of two members of one name the later counts. A
member that the schema requires has a blank value where it is missing. `Form.schema` reads such an
object into a structure by one `Slot` for each known member; `Form.shape` only brings an object
into its normal form, in which the members are those that the schema knows.
-/

set_option autoImplicit false

namespace BlogOperator.Json

/-- A known member of an object, and what its value does to the structure being read. -/
structure Slot (α : Type) where
  name : String
  form : Form (α → Except Fault α)

namespace Slot

variable {α β : Type}

/-- A member whose value may be missing or null. -/
def optional (name : String) (form : Form β) (put : Option β → α → α) : Slot α :=
  ⟨name, form.nullable.map fun value target ↦ .ok (put value target)⟩

/-- A member that is blank where it is missing or null. -/
def filled (name : String) (form : Form β) (blank : β) (put : β → α → α) : Slot α :=
  optional name form fun value ↦ put (value.getD blank)

/-- A member that, if it is there, must be this text. -/
def constant (name text : String) : Slot α :=
  ⟨name, Form.string.map fun value target ↦
    if value = text then .ok target else .error (.wrongValue (.text value) text)⟩

end Slot

namespace Form

variable {α : Type}

/-- One member of an object, put where its slot says. -/
def putValue (slots : List (Slot α)) (target : α) (member : String × Json) : Except Fault α :=
  match slots.find? fun slot ↦ slot.name = member.1 with
  | some slot => do (← slot.form.value member.2) target
  | none => .ok target

/-- One member of the object ahead, put where its slot says. -/
def putText (slots : List (Slot α)) (target : α) : Scan α := do
  let name ← Scan.text
  Scan.colon
  match slots.find? fun slot ↦ slot.name = name with
  | some slot => Scan.ofExcept ((← slot.form.text) target)
  | none => do
    Scan.skipValue
    return target

/-- Reads an object by its slots, beginning with a structure in which nothing has been put. -/
def schema (expected : String) (slots : List (Slot α)) (start : α) : Form α where
  value
    | .object members => members.foldlM (putValue slots) start
    | other => .error (.wrongType other.found expected)
  text := begins expected fun
    | '[' => some (Scan.enclosed (Scan.refuse (.wrongType .list expected)) Scan.endList)
    | '\x7b' => some (Scan.enclosed
        (Scan.repeated Scan.hasMember (putText slots) start) Scan.endObject)
    | _ => none

end Form

/-! ### Schemas of values that are only kept -/

/-- A member of an object that is only kept: its form, and what stands for it where it is missing,
if it is required. -/
structure Property where
  name : String
  form : Form Json
  blank : Option Json

namespace Property

/-- Members with the one of a property set, or removed where it has no value. -/
def keep (property : Property) (value : Option Json) (members : Members) : Members :=
  match value.or property.blank with
  | some value => insertMember property.name value members
  | none => members.filter fun member ↦ member.1 ≠ property.name

/-- The slot of a property of a structure that keeps such members where `change` reaches. -/
def slot {α : Type} (change : (Members → Members) → α → α) (property : Property) : Slot α :=
  .optional property.name property.form fun value ↦ change (property.keep value)

/-- The slot of a property whose value may not be null. -/
def firmSlot (property : Property) : Slot Members :=
  ⟨property.name, property.form.map fun value members ↦ .ok (property.keep (some value) members)⟩

/-- A property that is required, with the blank value it has where it is missing. -/
def required (blank : Json) (property : Property) : Property :=
  { property with blank := some blank }

/-- A text. -/
def text (name : String) : Property :=
  ⟨name, Form.string.map .text, none⟩

/-- A text that is required. -/
def requiredText (name : String) : Property :=
  (text name).required (.text "")

/-- True or false. -/
def flag (name : String) : Property :=
  ⟨name, Form.bool.map .bool, none⟩

/-- A whole number of 32 bits. -/
def count (name : String) : Property :=
  ⟨name, Form.int32.map fun value ↦ Json.integer value.toInt, none⟩

/-- A whole number of 32 bits that is required. -/
def requiredCount (name : String) : Property :=
  (count name).required (Json.integer 0)

/-- A whole number of 64 bits. -/
def longCount (name : String) : Property :=
  ⟨name, Form.int64.map Json.integer, none⟩

/-- A list of texts. -/
def texts (name : String) : Property :=
  ⟨name, (Form.list Form.string).map fun items ↦ .list (items.map .text), none⟩

/-- A list of texts that is required. -/
def requiredTexts (name : String) : Property :=
  (texts name).required (.list [])

/-- A dictionary of texts. -/
def labels (name : String) : Property :=
  ⟨name, (Form.dictionary Form.string).map Json.dictionary, none⟩

/-- A value of a schema of its own. -/
def one (name : String) (form : Form Json) : Property :=
  ⟨name, form, none⟩

/-- A list of values of a schema of its own. -/
def many (name : String) (form : Form Json) : Property :=
  ⟨name, (Form.list form).map .list, none⟩

/-- A list of values of a schema of its own that is required. -/
def requiredMany (name : String) (form : Form Json) : Property :=
  (many name form).required (.list [])

end Property

/-- The members that stand in an object even where nothing is given for them. -/
def blankMembers (properties : List Property) : Members :=
  ordered (properties.filterMap fun property ↦
    property.blank.map fun blank ↦ (property.name, blank))

/-- Brings an object with these properties into its normal form. -/
def Form.shape (expected : String) (properties : List Property) : Form Json :=
  (Form.schema expected (properties.map (Property.slot id)) (blankMembers properties)).map .object

/-- Brings an object with these properties into its normal form. The first one must be there, and
must not be null. -/
def Form.firmShape (expected : String) (firm : Property) (properties : List Property) :
    Form Json :=
  let slots := firm.firmSlot :: properties.map (Property.slot id)
  (Form.schema expected slots (blankMembers properties)).refine fun members ↦
    match members.lookup firm.name with
    | some _ => .ok (.object members)
    | none => .error (.missingMember firm.name)

/-- A property of a schema of its own that is required. -/
def Property.requiredShape (name expected : String) (properties : List Property) : Property :=
  (Property.one name (.shape expected properties)).required (.object (blankMembers properties))

/-- A property of a schema of its own. -/
def Property.shape (name expected : String) (properties : List Property) : Property :=
  Property.one name (.shape expected properties)

/-- A property that is a list of values of a schema of its own. -/
def Property.shapes (name expected : String) (properties : List Property) : Property :=
  Property.many name (.shape expected properties)

end BlogOperator.Json
