import BlogOperator.Kubernetes.Schema.Status
import BlogOperator.Kubernetes.Schema.Volume

/-!
# Claims on storage

A `VolumeClaim` asks the cluster for a volume. This library builds claims and otherwise hands them
on; a claim that exists is never rewritten.
-/

set_option autoImplicit false

namespace BlogOperator.Kubernetes

open BlogOperator.Json

/-- The amounts of storage that a claim asks for, and at most accepts. -/
structure VolumeResources where
  requests : Option (List (String × String)) := none
  limits : Option (List (String × String)) := none
  deriving DecidableEq, Repr, Inhabited

/-- What a claim asks for. -/
structure VolumeClaimSpec where
  accessModes : Option (List String) := none
  resources : Option VolumeResources := none
  others : Members := []
  deriving BEq, Repr, Inhabited

/-- A claim on a volume. -/
structure VolumeClaim where
  metadata : Metadata := {}
  spec : Option VolumeClaimSpec := none
  others : Members := []
  deriving BEq, Repr, Inhabited

/-- Amounts of storage as they are read. -/
def VolumeResources.form : Form VolumeResources :=
  .schema "VolumeResourceRequirements" [
    .optional "requests" (.dictionary .string) fun value resources ↦
      { resources with requests := value },
    .optional "limits" (.dictionary .string) fun value resources ↦
      { resources with limits := value }]
    {}

/-- Amounts of storage as they are written. -/
def VolumeResources.write (resources : VolumeResources) : Json :=
  Json.record (Json.optional "requests" Json.dictionary resources.requests ++
    Json.optional "limits" Json.dictionary resources.limits)

/-- What a claim asks for as it is read. -/
def VolumeClaimSpec.form : Form VolumeClaimSpec :=
  .schema "PersistentVolumeClaimSpec" ([
    .optional "accessModes" (.list .string) fun value spec ↦ { spec with accessModes := value },
    .optional "resources" VolumeResources.form fun value spec ↦
      { spec with resources := value }] ++
    Schema.claim.map (Property.slot fun change spec ↦ { spec with others := change spec.others }))
    {}

/-- What a claim asks for as it is written. -/
def VolumeClaimSpec.write (spec : VolumeClaimSpec) : Json :=
  Json.record (Json.optional "accessModes" (fun modes ↦ .list (modes.map .text)) spec.accessModes ++
    Json.optional "resources" VolumeResources.write spec.resources ++ spec.others)

namespace VolumeClaim

/-- The interface and kind under which claims are known. -/
def apiVersion : String := "v1"

/-- The kind under which claims are known. -/
def kind : String := "PersistentVolumeClaim"

/-- A claim as it is read. -/
def form : Form VolumeClaim :=
  .schema kind ([
    .constant "apiVersion" apiVersion, .constant "kind" kind,
    .filled "metadata" Metadata.form {} fun value claim ↦ { claim with metadata := value },
    .optional "spec" VolumeClaimSpec.form fun value claim ↦ { claim with spec := value }] ++
    [Schema.claimStatus].map (Property.slot fun change claim ↦
      { claim with others := change claim.others }))
    {}

/-- A claim as it is written. -/
def write (claim : VolumeClaim) : Json :=
  Json.record ([("apiVersion", .text apiVersion), ("kind", .text kind),
    ("metadata", claim.metadata.write)] ++
    Json.optional "spec" VolumeClaimSpec.write claim.spec ++ claim.others)

end VolumeClaim

end BlogOperator.Kubernetes
