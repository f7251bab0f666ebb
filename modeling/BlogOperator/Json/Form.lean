import BlogOperator.Json.Lexeme

/-!
# How a value is read

A `Form α` reads an `α` in two ways: `value` takes it from a value that is already there, and
`text` from the text ahead of a cursor. From the text that a value is written as, the second takes
what the first takes from the value, and it refuses where the first refuses. The faults can differ:
a text is read in one pass, so that of a fault of form and a value of the wrong kind the one that
comes first is reported, and the second also says where. `Form.parse` reads a whole text.
-/

set_option autoImplicit false

namespace BlogOperator.Json

/-- A way to read an `α`, from a value and from a text. -/
structure Form (α : Type) where
  value : Json → Except Fault α
  text : Scan α

namespace Form

variable {α β : Type}

/-- A form followed by a check or a change, whose refusal comes when the value has been read. -/
def refine (form : Form α) (step : α → Except Fault β) : Form β where
  value json := form.value json >>= step
  text := Scan.settled (form.text >>= fun value ↦ Scan.ofExcept (step value))

/-- A form followed by a change that cannot fail. -/
def map (change : α → β) (form : Form α) : Form β where
  value json := (form.value json).map change
  text := change <$> form.text

/-! ### Values of another kind -/

/-- What stands ahead, if it is a scalar read to its end; a bracket is left where it is. -/
def lookAhead : Scan Found := do
  match ← Scan.peek with
  | some 'n' => Scan.advance 1 *> Scan.word ['u', 'l', 'l'] *> pure .nothing
  | some 't' => Scan.advance 1 *> Scan.word ['r', 'u', 'e'] *> pure (.bool true)
  | some 'f' => Scan.advance 1 *> Scan.word ['a', 'l', 's', 'e'] *> pure (.bool false)
  | some '"' => Found.text <$> Scan.text
  | some '[' => pure .list
  | some '\x7b' => pure .object
  | some character =>
    if character = '-' || character.isDigit then Found.number <$> Scan.number
    else Scan.malformedAhead .valueExpected
  | none => Scan.malformedAhead .valueExpected

/-- Refuses what stands ahead because something else was expected. -/
def mismatch (expected : String) : Scan α := do
  Scan.refuse (.wrongType (← lookAhead) expected)

/-- Reads what begins with the next character that is no space, by `read` if it can. -/
def begins (expected : String) (read : Char → Option (Scan α)) : Scan α :=
  Scan.settled do
    match ← Scan.skipSpace with
    | none => Scan.malformedAhead .unfinishedValue
    | some character =>
      match read character with
      | some scan => scan
      | none => mismatch expected

/-! ### Scalars -/

/-- A text that `parse` makes sense of. -/
def parsed (expected : String) (parse : String → Except Fault α) : Form α where
  value
    | .text value => parse value
    | other => .error (.wrongType other.found expected)
  text := begins expected fun
    | '"' => some (Scan.text >>= fun value ↦ Scan.ofExcept (parse value))
    | _ => none

/-- Any text. -/
def string : Form String :=
  parsed "a string" .ok

/-- True or false. -/
def bool : Form Bool where
  value
    | .bool value => .ok value
    | other => .error (.wrongType other.found "a boolean")
  text := begins "a boolean" fun
    | 't' => some (Scan.advance 1 *> Scan.word ['r', 'u', 'e'] *> pure true)
    | 'f' => some (Scan.advance 1 *> Scan.word ['a', 'l', 's', 'e'] *> pure false)
    | _ => none

/-- A number that `accept` makes sense of. -/
def numeric (expected : String) (accept : Number → Except Fault α) : Form α where
  value
    | .number value => accept value
    | other => .error (.wrongType other.found expected)
  text := begins expected fun character ↦
    if character = '-' || character.isDigit then
      some (Scan.number >>= fun value ↦ Scan.ofExcept (accept value))
    else none

/-- A whole number within bounds. -/
def integer (expected : String) (low high : Int) : Form Int :=
  numeric expected fun
    | .integer value =>
      if low ≤ value ∧ value ≤ high then .ok value
      else .error (.wrongValue (.number (.integer value)) expected)
    | .decimal value => .error (.wrongType (.number (.decimal value)) expected)

/-- A whole number of 32 bits with a sign. -/
def int32 : Form Int32 :=
  (integer "i32" (-2147483648) 2147483647).map Int32.ofInt

/-- A whole number of 64 bits with a sign. -/
def int64 : Form Int :=
  integer "i64" (-9223372036854775808) 9223372036854775807

/-- A whole number of 16 bits without a sign. -/
def uint16 : Form UInt16 :=
  (integer "u16" 0 65535).map fun value ↦ UInt16.ofNat value.toNat

/-- A whole number of 32 bits without a sign. -/
def uint32 : Form UInt32 :=
  (integer "u32" 0 4294967295).map fun value ↦ UInt32.ofNat value.toNat

/-- A whole number of 64 bits without a sign. -/
def uint64 : Form UInt64 :=
  (integer "u64" 0 18446744073709551615).map fun value ↦ UInt64.ofNat value.toNat

/-- No value. -/
def nothing : Form Unit where
  value
    | .null => .ok ()
    | other => .error (.wrongType other.found "unit")
  text := begins "unit" fun
    | 'n' => some (Scan.advance 1 *> Scan.word ['u', 'l', 'l'])
    | _ => none

/-- A value or none. -/
def nullable (form : Form α) : Form (Option α) where
  value
    | .null => .ok none
    | other => (form.value other).map some
  text := do
    if (← Scan.skipSpace) = some 'n' then
      Scan.advance 1
      Scan.word ['u', 'l', 'l']
      return none
    else return some (← form.text)

/-! ### Choices -/

/-- One of the named values. -/
def variant (names : List (String × α)) (name : String) : Except Fault α :=
  match names.lookup name with
  | some value => .ok value
  | none => .error (.unknownVariant name (names.map Prod.fst))

/-- One of the named values, by its name alone or as an object whose only member has that name and
no value. -/
def choice (names : List (String × α)) : Form α where
  value
    | .text name => variant names name
    | .object [(name, inner)] => do
      let value ← variant names name
      nothing.value inner
      return value
    | .object _ => .error (.wrongValue .object "map with a single key")
    | other => .error (.wrongType other.found "string or map")
  text := do
    let name : Scan α := (parsed "variant identifier" (variant names)).text
    match ← Scan.skipSpace with
    | none => Scan.malformedAhead .unfinishedValue
    | some '"' => name
    | some '\x7b' =>
      let value ← Scan.nested do
        Scan.advance 1
        if !(← Scan.hasMember true) then Scan.malformedAhead .valueExpected
        let value ← name
        Scan.colon
        nothing.text
        return value
      match ← Scan.skipSpace with
      | some '\x7d' => Scan.advance 1
      | some _ => Scan.malformedHere .valueExpected
      | none => Scan.malformedHere .unfinishedObject
      return value
    | some _ => Scan.malformedAhead .valueExpected

/-! ### Lists and dictionaries -/

/-- A list of values of one form. -/
def list (form : Form α) : Form (List α) where
  value
    | .list items => items.mapM form.value
    | other => .error (.wrongType other.found "a sequence")
  text := begins "a sequence" fun
    | '[' => some do
      let reversed ← Scan.enclosed
        (Scan.repeated Scan.hasItem (fun read ↦ return (← form.text) :: read) []) Scan.endList
      return reversed.reverse
    | _ => none

/-- Named values of one form, in order of their names; of several with one name the last counts. -/
def dictionary (form : Form α) : Form (List (String × α)) where
  value
    | .object members => do
      let read ← members.mapM fun member ↦ return (member.1, ← form.value member.2)
      return ordered read
    | other => .error (.wrongType other.found "a map")
  text := begins "a map" fun
    | '\x7b' => some do
      Scan.enclosed
        (Scan.repeated Scan.hasMember
          (fun read ↦ do
            let name ← Scan.text
            Scan.colon
            return insertMember name (← form.text) read) [])
        Scan.endObject
    | _ => none

/-! ### Anything -/

/-- Any value, nested at most so many levels deep. -/
def anyText : (levels : Nat) → Scan Json
  | 0 => Scan.malformedAhead .nestedTooDeep
  | levels + 1 => Scan.settled do
    match ← Scan.skipSpace with
    | none => Scan.malformedAhead .unfinishedValue
    | some '[' =>
      let reversed ← Scan.enclosed
        (Scan.repeated Scan.hasItem (fun read ↦ return (← anyText levels) :: read) [])
        Scan.endList
      return .list reversed.reverse
    | some '\x7b' =>
      let members ← Scan.enclosed
        (Scan.repeated Scan.hasMember
          (fun read ↦ do
            let name ← Scan.text
            Scan.colon
            return insertMember name (← anyText levels) read) [])
        Scan.endObject
      return .object members
    | some _ =>
      match ← lookAhead with
      | .bool value => return .bool value
      | .number value => return .number value
      | .text value => return .text value
      | _ => return .null

/-- Any value. -/
def anything : Form Json where
  value := .ok
  text := do anyText (← get).levels

/-! ### Whole texts -/

/-- Reads a text that holds one value and nothing after it but spaces. -/
def parse (form : Form α) (text : String) : Except Misreading α :=
  let whole : Scan α := do
    let value ← form.text
    if (← Scan.skipSpace).isSome then Scan.malformedAhead .trailingCharacters
    return value
  (whole.run (Cursor.start text)).1

/-- Reads a value that did not come from a text. -/
def read (form : Form α) (json : Json) : Except Misreading α :=
  (form.value json).mapError fun fault ↦ ⟨fault, none⟩

end Form

end BlogOperator.Json
