import BlogOperator.Kubernetes.Scalar

/-!
# Metadata of cluster objects

Every object carries a `Metadata`: its name and namespace, the identity the cluster gave it, the
version of its last write, its labels and its owners. Members of the metadata that this library
only hands on are kept in `others`, ordered by name.
-/

set_option autoImplicit false

namespace BlogOperator.Kubernetes

open BlogOperator.Json

/-- A reference from an object to one of its owners. The cluster collects an object when all its
owners are gone. -/
structure OwnerReference where
  apiVersion : String := ""
  kind : String := ""
  name : String := ""
  uid : String := ""
  /-- Whether this owner is the one that manages the object. -/
  controller : Option Bool := none
  blockOwnerDeletion : Option Bool := none
  deriving DecidableEq, Repr, Inhabited

namespace OwnerReference

/-- An owner reference as it is read. -/
def form : Form OwnerReference :=
  .schema "OwnerReference" [
    .filled "apiVersion" .string "" fun value reference ↦ { reference with apiVersion := value },
    .filled "kind" .string "" fun value reference ↦ { reference with kind := value },
    .filled "name" .string "" fun value reference ↦ { reference with name := value },
    .filled "uid" .string "" fun value reference ↦ { reference with uid := value },
    .optional "controller" .bool fun value reference ↦ { reference with controller := value },
    .optional "blockOwnerDeletion" .bool fun value reference ↦
      { reference with blockOwnerDeletion := value }]
    {}

/-- An owner reference as it is written. -/
def write (reference : OwnerReference) : Json :=
  Json.record ([
    ("apiVersion", .text reference.apiVersion),
    ("kind", .text reference.kind),
    ("name", .text reference.name),
    ("uid", .text reference.uid)] ++
    Json.optional "controller" .bool reference.controller ++
    Json.optional "blockOwnerDeletion" .bool reference.blockOwnerDeletion)

end OwnerReference

/-- What the cluster keeps about an object besides its content. -/
structure Metadata where
  name : Option String := none
  namespaceName : Option String := none
  /-- The front of a name that the cluster is to complete. -/
  generateName : Option String := none
  /-- The identity of the object, never given to another one. -/
  uid : Option String := none
  /-- Changes with every write of the object. -/
  resourceVersion : Option String := none
  labels : Option (List (String × String)) := none
  ownerReferences : Option (List OwnerReference) := none
  others : Members := []
  deriving BEq, Repr, Inhabited

namespace Metadata

/-- The record of who wrote which member. -/
def managedFields : List Property := [
  .text "apiVersion", .text "fieldsType", .one "fieldsV1" .anything, .text "manager",
  .text "operation", .text "subresource", timeProperty "time"]

/-- The members that are only handed on. -/
def otherProperties : List Property := [
  .labels "annotations", timeProperty "creationTimestamp",
  .longCount "deletionGracePeriodSeconds", timeProperty "deletionTimestamp", .texts "finalizers",
  .longCount "generation", .shapes "managedFields" "ManagedFieldsEntry" managedFields,
  .text "selfLink"]

/-- The slots of the members that are only handed on. -/
def otherSlots : List (Slot Metadata) :=
  otherProperties.map (Property.slot fun change metadata ↦
    { metadata with others := change metadata.others })

/-- Metadata as they are read. -/
def form : Form Metadata :=
  .schema "ObjectMeta" ([
    .optional "name" .string fun value metadata ↦ { metadata with name := value },
    .optional "namespace" .string fun value metadata ↦ { metadata with namespaceName := value },
    .optional "generateName" .string fun value metadata ↦
      { metadata with generateName := value },
    .optional "uid" .string fun value metadata ↦ { metadata with uid := value },
    .optional "resourceVersion" .string fun value metadata ↦
      { metadata with resourceVersion := value },
    .optional "labels" (.dictionary .string) fun value metadata ↦
      { metadata with labels := value },
    .optional "ownerReferences" (.list OwnerReference.form) fun value metadata ↦
      { metadata with ownerReferences := value }] ++
    otherSlots)
    {}

/-- Metadata as they are written. -/
def write (metadata : Metadata) : Json :=
  Json.record (
    Json.optional "name" .text metadata.name ++
    Json.optional "namespace" .text metadata.namespaceName ++
    Json.optional "generateName" .text metadata.generateName ++
    Json.optional "uid" .text metadata.uid ++
    Json.optional "resourceVersion" .text metadata.resourceVersion ++
    Json.optional "labels" Json.dictionary metadata.labels ++
    Json.optional "ownerReferences" (fun references ↦ .list (references.map OwnerReference.write))
      metadata.ownerReferences ++
    metadata.others)

/-- Metadata as part of a record. -/
def codec : Codec Metadata :=
  { form with write }

/-- The name by which an object is addressed, empty if it has none. -/
def nameOrEmpty (metadata : Metadata) : String :=
  metadata.name.getD ""

/-- The namespace by which an object is addressed, empty if it has none. -/
def namespaceOrEmpty (metadata : Metadata) : String :=
  metadata.namespaceName.getD ""

/-- The name an object goes by: its own, else the front of the name it is to get, else nothing. -/
def displayName (metadata : Metadata) : String :=
  (metadata.name.or metadata.generateName).getD ""

end Metadata

end BlogOperator.Kubernetes
