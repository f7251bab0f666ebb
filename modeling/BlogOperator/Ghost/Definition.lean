import BlogOperator.Ghost.Basic
import BlogOperator.Text.Quoted

/-!
# The definition of blogs

Before a cluster accepts blogs it has to be told what they are: under what names they are known,
what columns a listing of them shows, and what their specification and status may hold. The limits
on tags and numbers of pods are stated here and nowhere else, because it is the cluster that
refuses what is outside them.
-/

set_option autoImplicit false

namespace BlogOperator.Ghost

/-- The name of one blog, as it is used in commands. -/
def singular : String := "ghost"

/-- The name of the definition. -/
def definitionName : String := plural ++ "." ++ group

/-- How blogs are addressed, as it is shown in messages. -/
def resourceText : String :=
  s!"ApiResource \x7b group: {Text.quoted group}, version: {Text.quoted version}, " ++
    s!"api_version: {Text.quoted apiVersion}, kind: {Text.quoted kind}, " ++
    s!"plural: {Text.quoted plural} \x7d"

/-- What the members of an object may hold, those that must be there being named. -/
def objectSchema (members : Json.Members) (required : List String) : Json.Members := [
  ("type", .text "object"),
  ("properties", Json.record members),
  ("required", .list (required.map .text))]

/-- What a member may hold, with a sentence about it. -/
def describedSchema (description type : String) (more : Json.Members) : Json :=
  Json.record ([("description", .text description), ("type", .text type)] ++ more)

/-- The whole number as a bound. -/
def bound (value : Nat) : Json := .number (.decimal ⟨false, value, 0⟩)

/-- What a specification may hold. -/
def specSchema : Json :=
  Json.record (("description", .text ("Ghost is the Schema for the ghosts API.\n\n" ++
      "Only one Ghost per namespace is supported: child resource names are derived from the " ++
      "namespace, not from the Ghost's own name.")) ::
    objectSchema [
      ("imageTag", describedSchema "Tag of the `ghost` container image." "string"
        [("pattern", .text "^[-a-z0-9]*$")]),
      ("replicas", describedSchema "Number of blog pods." "integer"
        [("format", .text "int32"), ("minimum", bound 1), ("maximum", bound 3)]),
      ("enableIngress",
        describedSchema "Expose the blog through an Ingress at `<name>.kb.dev`." "boolean"
          [("default", .bool false)])]
      ["imageTag", "replicas"])

/-- What a condition may hold. -/
def conditionSchema : Json :=
  Json.record (
    ("description", .text "Condition representing one readiness aspect of a Ghost.") ::
    objectSchema [
      ("type",
        describedSchema "Type of condition (GhostReady, DeploymentNotReady, ...)." "string" []),
      ("status", describedSchema "Status of the condition." "string"
        [("enum", .list [.text "True", .text "False", .text "Unknown"])]),
      ("reason", describedSchema "Machine-readable reason." "string" []),
      ("message", describedSchema "Human-readable message." "string" []),
      ("lastTransitionTime",
        describedSchema "Last time the condition was written, RFC 3339." "string" [])]
      ["lastTransitionTime", "message", "reason", "status", "type"])

/-- What a status may hold. -/
def statusSchema : Json :=
  describedSchema "Ghost status." "object" [
    ("nullable", .bool true),
    ("properties", Json.record [("conditions",
      describedSchema "Conditions, at most one per type, in insertion order." "array"
        [("default", .list []), ("items", conditionSchema)])])]

/-- What a blog may hold. -/
def schema : Json :=
  Json.record ([
    ("title", .text kind),
    ("description", .text "Auto-generated derived type for GhostSpec via `CustomResource`")] ++
    objectSchema [("spec", specSchema), ("status", statusSchema)] ["spec"])

/-- A column of a listing: its heading, its type and the member that it shows. -/
def column (name type path : String) : Json :=
  Json.record [("name", .text name), ("type", .text type), ("jsonPath", .text path)]

/-- The columns of a listing of blogs. -/
def columns : List Json := [
  column "Image Tag" "string" ".spec.imageTag",
  column "Replicas" "integer" ".spec.replicas",
  column "Ingress" "boolean" ".spec.enableIngress",
  column "Age" "date" ".metadata.creationTimestamp"]

/-- The definition that makes a cluster accept blogs. -/
def definition : Json :=
  Json.record [
    ("apiVersion", .text "apiextensions.k8s.io/v1"),
    ("kind", .text "CustomResourceDefinition"),
    ("metadata", Json.record [("name", .text definitionName)]),
    ("spec", Json.record [
      ("group", .text group),
      ("names", Json.record [
        ("kind", .text kind), ("plural", .text plural), ("singular", .text singular),
        ("shortNames", .list []), ("categories", .list [])]),
      ("scope", .text "Namespaced"),
      ("versions", .list [Json.record [
        ("name", .text version),
        ("served", .bool true),
        ("storage", .bool true),
        ("schema", Json.record [("openAPIV3Schema", schema)]),
        ("subresources", Json.record [("status", Json.record [])]),
        ("additionalPrinterColumns", .list columns)]])])]

end BlogOperator.Ghost
