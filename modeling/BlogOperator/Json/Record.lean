import BlogOperator.Json.Form

/-!
# Records

A `Record` lists the members of an object whose members are all known. It is read from an object,
whose members may come in any order and among others, but not twice; or from a list of the values
in the order of the record. `Record.write` gives the members back. A `Codec` is a form together
with the way its values are written.
-/

set_option autoImplicit false

namespace BlogOperator.Json

/-- A way to read an `α` and a way to write one. -/
structure Codec (α : Type) extends Form α where
  write : α → Json

/-- A member of a record. -/
structure Member (α : Type) where
  name : String
  form : Form α
  /-- How the member is written; nothing if it is left out. -/
  write : α → Option Json
  /-- What an object without the member means. -/
  ifAbsent : Option α
  /-- What a list that ends before the member means. -/
  ifListEnds : Option α

namespace Member

variable {α : Type}

/-- A member that must be there. -/
def required (name : String) (codec : Codec α) : Member α :=
  ⟨name, codec.toForm, fun value ↦ some (codec.write value), none, none⟩

/-- A member that has a value even where it is left out. -/
def assumed (name : String) (codec : Codec α) (value : α) : Member α :=
  ⟨name, codec.toForm, fun value ↦ some (codec.write value), some value, some value⟩

/-- A member that may be missing or null, and is left out when there is no value. -/
def optional (name : String) (codec : Codec α) : Member (Option α) :=
  ⟨name, codec.toForm.nullable, fun value ↦ value.map codec.write, some none, none⟩

/-- A member that may be missing or null, and is written as null when there is no value. -/
def nullable (name : String) (codec : Codec α) : Member (Option α) :=
  ⟨name, codec.toForm.nullable, fun value ↦ some ((value.map codec.write).getD .null),
    some none, none⟩

/-- A member that is read and never written. -/
def readOnly (name : String) (form : Form α) (ifAbsent : Option α) : Member α :=
  ⟨name, form, fun _ ↦ none, ifAbsent, ifAbsent⟩

end Member

/-- The members of a record in order; `τ` is the product of their types. -/
inductive Record : Type → Type 1 where
  | done : Record Unit
  | cons {α τ : Type} (member : Member α) (rest : Record τ) : Record (α × τ)

namespace Record

/-- A record that is partly read: the members seen so far. -/
def Draft : {τ : Type} → Record τ → Type
  | _, .done => Unit
  | _, @cons α _ _ rest => Option α × Draft rest

/-- A record none of whose members has been seen. -/
def blank : {τ : Type} → (record : Record τ) → record.Draft
  | _, .done => ()
  | _, .cons _ rest => (none, blank rest)

/-- The names of the members. -/
def names : {τ : Type} → Record τ → List String
  | _, .done => []
  | _, .cons member rest => member.name :: names rest

/-- Refuses a member that has been seen before. -/
def once {α : Type} (name : String) : Option α → Except Fault Unit
  | none => .ok ()
  | some _ => .error (.repeatedMember name)

/-- Reads a member of this name into a draft, if the record has such a member. -/
def takeValue : {τ : Type} → (record : Record τ) → String → Json → record.Draft →
    Option (Except Fault record.Draft)
  | _, .done, _, _, _ => none
  | _, .cons member rest, name, json, draft =>
    match draft with
    | (seen, others) =>
      if member.name = name then
        some do
          once name seen
          return (some (← member.form.value json), others)
      else (takeValue rest name json others).map fun read ↦ return (seen, ← read)

/-- Reads the member whose name has just been passed into a draft, if the record has such a
member. -/
def takeText : {τ : Type} → (record : Record τ) → String → record.Draft →
    Option (Scan record.Draft)
  | _, .done, _, _ => none
  | _, .cons member rest, name, draft =>
    match draft with
    | (seen, others) =>
      if member.name = name then
        some do
          Scan.ofExcept (once name seen)
          Scan.colon
          return (some (← member.form.text), others)
      else (takeText rest name others).map fun read ↦ return (seen, ← read)

/-- The values of a record, or the first member that is missing. -/
def finish : {τ : Type} → (record : Record τ) → record.Draft → Except Fault τ
  | _, .done, _ => .ok ()
  | _, .cons member rest, draft =>
    match draft with
    | (seen, others) => do
      let value ← match seen.or member.ifAbsent with
        | some value => .ok value
        | none => .error (.missingMember member.name)
      return (value, ← finish rest others)

/-- Reads the values of a record from the front of a list; `index` of them have been read. -/
def takeItems (length : String) : {τ : Type} → (record : Record τ) → (index : Nat) →
    List Json → Except Fault (τ × List Json)
  | _, .done, _, items => .ok ((), items)
  | _, .cons member rest, index, items => do
    let (value, left) ← match items, member.ifListEnds with
      | item :: left, _ => do pure (← member.form.value item, left)
      | [], some value => pure (value, [])
      | [], none => .error (.wrongLength index length)
    let (others, left) ← takeItems length rest (index + 1) left
    return ((value, others), left)

/-- Reads the values of a record from the list ahead; `index` of them have been read. -/
def takeListed (length : String) : {τ : Type} → (record : Record τ) → (index : Nat) → Scan τ
  | _, .done, _ => pure ()
  | _, .cons member rest, index => do
    let value ←
      if ← Scan.hasItem (index == 0) then member.form.text
      else match member.ifListEnds with
        | some value => pure value
        | none => Scan.refuse (.wrongLength index length)
    return (value, ← takeListed length rest (index + 1))

/-- What a record is called, and what becomes of members it does not have. -/
structure Manner where
  /-- The record as it is named where something else is found. -/
  expected : String
  /-- The record as it is named where a list has the wrong length. -/
  length : String
  /-- Whether members that the record does not have are an error. -/
  strict : Bool

/-- The manner of a structure that other members may stand beside. -/
def Manner.lenient (name : String) (size : Nat) : Manner :=
  ⟨s!"struct {name}", s!"struct {name} with {size} " ++ if size = 1 then "element" else "elements",
    false⟩

variable {τ : Type}

/-- Passes over a member that the record does not have, or refuses it. -/
def unknown (record : Record τ) (manner : Manner) (name : String) : Except Fault Unit :=
  if manner.strict then .error (.unknownMember name record.names) else .ok ()

/-- One member of an object, read into a draft. -/
def stepValue (record : Record τ) (manner : Manner) (draft : record.Draft)
    (member : String × Json) : Except Fault record.Draft :=
  match record.takeValue member.1 member.2 draft with
  | some read => read
  | none => do
    record.unknown manner member.1
    return draft

/-- One member of the object ahead, read into a draft. -/
def stepText (record : Record τ) (manner : Manner) (draft : record.Draft) :
    Scan record.Draft := do
  let name ← Scan.text
  match record.takeText name draft with
  | some read => read
  | none =>
    Scan.ofExcept (record.unknown manner name)
    Scan.colon
    Scan.skipValue
    return draft

/-- The form of what the values of a record make up. The making comes before a list is found to be
too long. -/
def built {β : Type} (record : Record τ) (manner : Manner) (build : τ → Except Fault β) :
    Form β where
  value
    | .object members => do
      build (← record.finish (← members.foldlM (record.stepValue manner) record.blank))
    | .list items => do
      let (values, left) ← record.takeItems manner.length 0 items
      let value ← build values
      if left.isEmpty then return value
      else throw (.wrongLength items.length "fewer elements in array")
    | other => .error (.wrongType other.found manner.expected)
  text := Form.begins manner.expected fun
    | '[' => some (Scan.enclosed
        (do
          let values ← record.takeListed manner.length 0
          Scan.ofExcept (build values))
        Scan.endList)
    | '\x7b' => some (Scan.enclosed
        (do
          let draft ← Scan.repeated Scan.hasMember (record.stepText manner) record.blank
          Scan.ofExcept (record.finish draft >>= build))
        Scan.endObject)
    | _ => none

/-- The form of a record. -/
def form (record : Record τ) (manner : Manner) : Form τ :=
  record.built manner .ok

/-- The members of a record with these values, in the record's order. -/
def members : {τ : Type} → Record τ → τ → Members
  | _, .done, _ => []
  | _, .cons member rest, (value, others) =>
    ((member.write value).map fun json ↦ (member.name, json)).toList ++ members rest others

/-- The object with these values. -/
def write (record : Record τ) (values : τ) : Json :=
  Json.record (record.members values)

end Record

/-! ### Codecs of simple values -/

namespace Codec

/-- Any text. -/
def string : Codec String := { Form.string with write := .text }

/-- True or false. -/
def bool : Codec Bool := { Form.bool with write := .bool }

/-- A whole number of 32 bits with a sign. -/
def int32 : Codec Int32 := { Form.int32 with write := fun value ↦ Json.integer value.toInt }

/-- A whole number of 16 bits without a sign. -/
def uint16 : Codec UInt16 := { Form.uint16 with write := fun value ↦ Json.integer value.toNat }

/-- A whole number of 32 bits without a sign. -/
def uint32 : Codec UInt32 := { Form.uint32 with write := fun value ↦ Json.integer value.toNat }

/-- A whole number of 64 bits without a sign. -/
def uint64 : Codec UInt64 := { Form.uint64 with write := fun value ↦ Json.integer value.toNat }

variable {α β : Type}

/-- A list of values of one kind. -/
def list (codec : Codec α) : Codec (List α) :=
  { Form.list codec.toForm with write := fun items ↦ .list (items.map codec.write) }

/-- One of the named values, written as its name. -/
def choice (names : List (String × α)) (name : α → String) : Codec α :=
  { Form.choice names with write := fun value ↦ .text (name value) }

/-- A record whose values make up a structure. -/
def ofRecord (record : Record α) (manner : Record.Manner) (build : α → β) (parts : β → α) :
    Codec β :=
  { (record.form manner).map build with write := fun value ↦ record.write (parts value) }

end Codec

end BlogOperator.Json
