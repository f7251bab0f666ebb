import BlogOperator.Json.Schema

/-!
# Times and ports in cluster objects

Times are read in any offset and kept as they are written: in universal time, to the second in
metadata and to the microsecond in events. A `PortReference` names a port by its number or by its
name.
-/

set_option autoImplicit false

namespace BlogOperator.Kubernetes

open BlogOperator.Json BlogOperator.Time

/-- A written time. -/
def instantForm : Form Instant :=
  Form.parsed "an RFC 3339 formatted date and time string" fun text ↦
    (readInstant text).mapError .unreadableTime

/-- A time to the second. -/
def secondForm : Form Json :=
  instantForm.map fun instant ↦ .text instant.secondText

/-- A time to the microsecond. -/
def microForm : Form Json :=
  instantForm.map fun instant ↦ .text instant.microText

/-- A property that is a time to the second. -/
def timeProperty (name : String) : Property :=
  ⟨name, secondForm, none⟩

/-- A port, by number or by name. -/
inductive PortReference where
  | number (value : Int32)
  | name (value : String)
  deriving DecidableEq, Repr, Inhabited

namespace PortReference

/-- What a port reference is called where something else is found. -/
def expected : String := "IntOrString"

/-- A number given for a port. -/
def ofNumber : Number → Except Fault PortReference
  | .integer value =>
    if -2147483648 ≤ value ∧ value ≤ 2147483647 then .ok (.number (Int32.ofInt value))
    else .error (.wrongValue (.number (.integer value)) "a 32-bit integer")
  | .decimal value => .error (.wrongType (.number (.decimal value)) expected)

/-- A number or a text. -/
def form : Form PortReference where
  value
    | .number value => ofNumber value
    | .text value => .ok (.name value)
    | other => .error (.wrongType other.found expected)
  text := Form.begins expected fun
    | '"' => some (PortReference.name <$> Scan.text)
    | '[' => some (Scan.enclosed (Scan.refuse (.wrongType .list expected)) Scan.endList)
    | '\x7b' => some (Scan.enclosed (Scan.refuse (.wrongType .object expected)) Scan.endObject)
    | character =>
      if character = '-' || character.isDigit then
        some (Scan.number >>= fun value ↦ Scan.ofExcept (ofNumber value))
      else none

/-- A port reference as it is written. -/
def write : PortReference → Json
  | .number value => Json.integer value.toInt
  | .name value => .text value

end PortReference

/-- A property that is a number or a text. -/
def portProperty (name : String) : Property :=
  ⟨name, PortReference.form.map PortReference.write, none⟩

/-- A number or a text that is required. -/
def requiredPort (name : String) : Property :=
  (portProperty name).required (Json.integer 0)

end BlogOperator.Kubernetes
