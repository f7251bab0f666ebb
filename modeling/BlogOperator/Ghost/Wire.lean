import BlogOperator.Ghost.Basic
import BlogOperator.Json.Record

/-!
# Written blogs

How blogs, their specifications, statuses and conditions are written and read. Each is a record of
known members; `enableIngress` and `conditions` may be left out.
-/

set_option autoImplicit false

namespace BlogOperator

open BlogOperator.Json BlogOperator.Kubernetes

/-- The written names of the verdicts. -/
def Verdict.names : List (String × Verdict) :=
  [("True", .holds), ("False", .fails), ("Unknown", .undetermined)]

/-- The written name of a verdict. -/
def Verdict.name : Verdict → String
  | .holds => "True"
  | .fails => "False"
  | .undetermined => "Unknown"

/-- A verdict is written as its name. -/
def Verdict.codec : Codec Verdict :=
  .choice names name

/-- The members of a written condition. -/
def Condition.record :
    Record (String × Verdict × String × String × String × Unit) :=
  .cons (.required "type" .string) <|
  .cons (.required "status" Verdict.codec) <|
  .cons (.required "reason" .string) <|
  .cons (.required "message" .string) <|
  .cons (.required "lastTransitionTime" .string) .done

/-- A condition and its members. -/
def Condition.codec : Codec Condition :=
  .ofRecord record (.lenient "Condition" 5)
    (fun (type, status, reason, message, time, ()) ↦ ⟨type, status, reason, message, time⟩)
    (fun ⟨type, status, reason, message, time⟩ ↦ (type, status, reason, message, time, ()))

/-- The members of a written specification. -/
def GhostSpec.record : Record (String × Int32 × Bool × Unit) :=
  .cons (.required "imageTag" .string) <|
  .cons (.required "replicas" .int32) <|
  .cons (.assumed "enableIngress" .bool false) .done

/-- A specification and its members. -/
def GhostSpec.codec : Codec GhostSpec :=
  .ofRecord record (.lenient "GhostSpec" 3)
    (fun (imageTag, replicas, enableIngress, ()) ↦ ⟨imageTag, replicas, enableIngress⟩)
    (fun ⟨imageTag, replicas, enableIngress⟩ ↦ (imageTag, replicas, enableIngress, ()))

/-- The members of a written status. -/
def GhostStatus.record : Record (List Condition × Unit) :=
  .cons (.assumed "conditions" (.list Condition.codec) []) .done

/-- A status and its members. -/
def GhostStatus.codec : Codec GhostStatus :=
  .ofRecord record (.lenient "GhostStatus" 1)
    (fun (conditions, ()) ↦ ⟨conditions⟩)
    (fun ⟨conditions⟩ ↦ (conditions, ()))

/-- The members of a written blog, its interface and kind left out. -/
def Ghost.record : Record (Metadata × GhostSpec × Option GhostStatus × Unit) :=
  .cons (.required "metadata" Metadata.codec) <|
  .cons (.required "spec" GhostSpec.codec) <|
  .cons (.optional "status" GhostStatus.codec) .done

/-- A blog as it is read. Its interface and kind are not looked at. -/
def Ghost.form : Form Ghost :=
  (record.form (.lenient "Ghost" 3)).map fun (metadata, spec, status, ()) ↦
    ⟨metadata, spec, status⟩

/-- A blog as it is written. -/
def Ghost.write (ghost : Ghost) : Json :=
  Json.record ([("apiVersion", .text apiVersion), ("kind", .text kind)] ++
    record.members (ghost.metadata, ghost.spec, ghost.status, ()))

end BlogOperator
