import BlogOperator.Kubernetes.Metadata

/-!
# References to objects

An `ObjectReference` points at an object from outside, as an event does at the object it is about.
-/

set_option autoImplicit false

namespace BlogOperator.Kubernetes

open BlogOperator.Json

/-- Points at an object of the cluster. -/
structure ObjectReference where
  apiVersion : Option String := none
  fieldPath : Option String := none
  kind : Option String := none
  name : Option String := none
  namespaceName : Option String := none
  resourceVersion : Option String := none
  uid : Option String := none
  deriving DecidableEq, Repr, Inhabited

namespace ObjectReference

/-- A reference as it is read. -/
def form : Form ObjectReference :=
  .schema "ObjectReference" [
    .optional "apiVersion" .string fun value reference ↦ { reference with apiVersion := value },
    .optional "fieldPath" .string fun value reference ↦ { reference with fieldPath := value },
    .optional "kind" .string fun value reference ↦ { reference with kind := value },
    .optional "name" .string fun value reference ↦ { reference with name := value },
    .optional "namespace" .string fun value reference ↦
      { reference with namespaceName := value },
    .optional "resourceVersion" .string fun value reference ↦
      { reference with resourceVersion := value },
    .optional "uid" .string fun value reference ↦ { reference with uid := value }]
    {}

/-- A reference as it is written. -/
def write (reference : ObjectReference) : Json :=
  Json.record (
    Json.optional "apiVersion" .text reference.apiVersion ++
    Json.optional "fieldPath" .text reference.fieldPath ++
    Json.optional "kind" .text reference.kind ++
    Json.optional "name" .text reference.name ++
    Json.optional "namespace" .text reference.namespaceName ++
    Json.optional "resourceVersion" .text reference.resourceVersion ++
    Json.optional "uid" .text reference.uid)

end ObjectReference

end BlogOperator.Kubernetes
