import BlogOperator.Kubernetes.Scalar

/-!
# Schemas of selectors and small references

The parts that several kinds of objects share and that this library only hands on: selectors by
label, references to objects of the same namespace, and keys in them.
-/

set_option autoImplicit false

namespace BlogOperator.Kubernetes.Schema

open BlogOperator.Json

/-- A condition on one label. -/
def labelRequirement : List Property := [
  .requiredText "key", .requiredText "operator", .texts "values"]

/-- The conditions of a selector beyond its required labels. -/
def matchExpressions : Property :=
  .shapes "matchExpressions" "LabelSelectorRequirement" labelRequirement

/-- A selector by label. -/
def labelSelector (name : String) : Property :=
  .shape name "LabelSelector" [matchExpressions, .labels "matchLabels"]

/-- A reference by name within a namespace. -/
def localReference (name : String) : Property :=
  .shape name "LocalObjectReference" [.requiredText "name"]

/-- The properties of a reference by kind and name within a namespace. -/
def typedLocalReference : List Property := [
  .text "apiGroup", .requiredText "kind", .requiredText "name"]

/-- An entry of a configuration map or a secret. -/
def keySelector (name expected : String) : Property :=
  .shape name expected [.requiredText "key", .requiredText "name", .flag "optional"]

/-- A member of an object. -/
def fieldSelector : Property :=
  .shape "fieldRef" "ObjectFieldSelector" [.text "apiVersion", .requiredText "fieldPath"]

/-- A resource of a container. -/
def resourceFieldSelector : Property :=
  .shape "resourceFieldRef" "ResourceFieldSelector" [
    .text "containerName", .text "divisor", .requiredText "resource"]

/-- Requested and granted amounts of storage. -/
def volumeResources : List Property := [.labels "limits", .labels "requests"]

end BlogOperator.Kubernetes.Schema
