import BlogOperator.Yaml.Value

/-!
# Shapes of values

A `Shape` reads a value as something of one type, or says what is wrong with it. Tags are passed
over except where a choice is expected. A record is read from a mapping whose keys are texts;
entries of other names are passed over, and a null stands for a mapping without entries.
-/

set_option autoImplicit false

namespace BlogOperator.Yaml

/-- A way to read a value as an `α`. -/
abbrev Shape (α : Type) := Value → Except Json.Fault α

namespace Shape

/-- A value without its tags. -/
def untagged : Value → Value
  | .tagged _ value => untagged value
  | value => value

/-- Refuses a value because something else was expected. -/
def mismatch {α : Type} (expected : String) (value : Value) : Except Json.Fault α :=
  .error (.wrongType value.found expected)

/-- A text, named by what it is expected to be. -/
def textAs (expected : String) : Shape String := fun value ↦
  match untagged value with
  | .text value => .ok value
  | other => mismatch expected other

/-- A text. -/
def text : Shape String := textAs "a string"

/-- True or false. -/
def bool : Shape Bool := fun value ↦
  match untagged value with
  | .bool value => .ok value
  | other => mismatch "a boolean" other

/-- A value that may be null. -/
def optional {α : Type} (shape : Shape α) : Shape (Option α)
  | .nothing => .ok none
  | value => some <$> shape value

/-- A list; a null stands for an empty one. -/
def list {α : Type} (shape : Shape α) : Shape (List α) := fun value ↦
  match untagged value with
  | .nothing => .ok []
  | .list items => items.mapM shape
  | other => mismatch "a sequence" other

/-- A list that may be null. -/
def assumedList {α : Type} (shape : Shape α) : Shape (List α) := fun value ↦
  (·.getD []) <$> optional (list shape) value

/-- A mapping from texts to texts. -/
def texts : Shape (List (String × String)) := fun value ↦
  match untagged value with
  | .nothing => .ok []
  | .mapping entries => entries.mapM fun (key, value) ↦ return (← text key, ← text value)
  | other => mismatch "a map" other

/-- A name out of a choice of names, as a text or as the tag of a null. -/
def choice {α : Type} (names : List (String × α)) : Shape α := fun value ↦
  let chosen (name : String) : Except Json.Fault α :=
    match names.lookup name with
    | some choice => .ok choice
    | none => .error (.unknownVariant name (names.map Prod.fst))
  match value with
  | .text name => chosen name
  | .tagged name value => do
    let choice ← chosen name
    match value with
    | .nothing => return choice
    | other => mismatch "unit" other
  | other => mismatch "a Value::Tagged enum" other

/-- A value that could be written as JSON: without tags, and with texts for keys. -/
def json (value : Value) : Except Json.Fault Unit :=
  match value with
  | .list items => items.attach.forM fun ⟨item, _⟩ ↦ json item
  | .mapping entries =>
    entries.attach.zipIdx.forM fun (⟨(key, value), _⟩, index) ↦ do
      let _ ← textAs (if index = 0 then "a string key" else "a string") key
      json value
  | .tagged tag value => mismatch "any valid JSON value" (.tagged tag value)
  | _ => .ok ()
termination_by sizeOf value
decreasing_by
  all_goals simp_wf
  · have := List.sizeOf_lt_of_mem ‹item ∈ items›
    omega
  · have := List.sizeOf_lt_of_mem ‹(key, value) ∈ entries›
    simp only [Prod.mk.sizeOf_spec] at this
    omega

/-! ### Records -/

/-- A member of a record that is read into drafts of type `σ`. -/
structure Member (σ : Type) where
  name : String
  isRequired : Bool
  /-- The draft with the member read from a value. -/
  read : σ → Shape σ

namespace Member

/-- A member that must be there. -/
def required {σ α : Type} (name : String) (shape : Shape α) (set : σ → α → σ) : Member σ :=
  ⟨name, true, fun draft value ↦ set draft <$> shape value⟩

/-- A member that may be left out. -/
def assumed {σ α : Type} (name : String) (shape : Shape α) (set : σ → α → σ) : Member σ :=
  ⟨name, false, fun draft value ↦ set draft <$> shape value⟩

/-- A member that may be left out or null. -/
def optional {σ α : Type} (name : String) (shape : Shape α) (set : σ → Option α → σ) :
    Member σ :=
  assumed name (Shape.optional shape) set

/-- A member that is read and then counts for nothing. -/
def checked {σ α : Type} (name : String) (shape : Shape α) : Member σ :=
  optional name shape fun draft _ ↦ draft

end Member

/-- Takes one more entry into a draft; `seen` are the names of the members read so far. -/
def take {σ : Type} (members : List (Member σ)) (read : σ × List String)
    (entry : Value × Value) : Except Json.Fault (σ × List String) := do
  let (draft, seen) := read
  let name ← textAs "field identifier" entry.1
  match members.find? (·.name = name) with
  | none => return (draft, seen)
  | some member =>
    if seen.contains name then throw (.repeatedMember name)
    return (← member.read draft entry.2, name :: seen)

/-- A record with these members, beginning with a blank draft. -/
def record {σ : Type} (name : String) (blank : σ) (members : List (Member σ)) : Shape σ :=
  fun value ↦ do
    let entries ← match untagged value with
      | .nothing => pure []
      | .mapping entries => pure entries
      | other => mismatch s!"struct {name}" other
    let (draft, seen) ← entries.foldlM (take members) (blank, [])
    match members.find? fun member ↦ member.isRequired && !seen.contains member.name with
    | some member => throw (.missingMember member.name)
    | none => return draft

end Shape

end BlogOperator.Yaml
