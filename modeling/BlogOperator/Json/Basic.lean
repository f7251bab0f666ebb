import BlogOperator.Number.Decimal

/-!
# JSON values

`Json` is a value of the data format. An integer and a decimal are different numbers, as they are
to every reader here: `3` may stand for a count and `3.0` may not. An object is a list of members;
`Json.record` puts members in order of their names, the last of several members of one name being
the one that counts, and everything this library writes or reads from text is in that order.
-/

set_option autoImplicit false

namespace BlogOperator

/-- A number of the data format, as it is written: with or without a fraction or exponent. -/
inductive Json.Number where
  | integer (value : Int)
  | decimal (value : BlogOperator.Number.Decimal)
  deriving DecidableEq, Repr, Inhabited

/-- A value of the data format. -/
inductive Json where
  | null
  | bool (value : Bool)
  | number (value : Json.Number)
  | text (value : String)
  | list (items : List Json)
  | object (members : List (String × Json))
  deriving BEq, Repr, Inhabited

namespace Json

/-- The named members of an object. -/
abbrev Members := List (String × Json)

/-- Puts a value under a name in a list ordered by name, in place of any value already there. -/
def insertMember {α : Type} (name : String) (value : α) :
    List (String × α) → List (String × α)
  | [] => [(name, value)]
  | (other, existing) :: rest =>
    if name < other then (name, value) :: (other, existing) :: rest
    else if name = other then (name, value) :: rest
    else (other, existing) :: insertMember name value rest

/-- Members in order of their names; of several with one name the last stays. -/
def ordered {α : Type} (members : List (String × α)) : List (String × α) :=
  members.foldl (fun known member ↦ insertMember member.1 member.2 known) []

/-- The object with these members. -/
def record (members : Members) : Json :=
  .object (ordered members)

/-- The number without a fraction. -/
def integer (value : Int) : Json :=
  .number (.integer value)

/-- The value of the first member of this name. -/
def get? (name : String) : Json → Option Json
  | .object members => members.lookup name
  | _ => none

/-- A member that is left out when there is no value for it. -/
def optional {α : Type} (name : String) (write : α → Json) (value : Option α) : Members :=
  (value.map fun value ↦ (name, write value)).toList

/-- A dictionary of texts. -/
def dictionary (entries : List (String × String)) : Json :=
  .object (entries.map fun entry ↦ (entry.1, .text entry.2))

end Json

end BlogOperator
