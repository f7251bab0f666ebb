import BlogOperator.Kubernetes.Network
import BlogOperator.Kubernetes.Storage
import BlogOperator.Kubernetes.Workload

/-!
# The kinds of children

A blog has one child of each `ChildKind`, and they are seen to in the order of `ChildKind.all`:
storage before the pods that use it, pods before the service in front of them, the service before
the route to it. The name of a child follows from its kind and the team.
-/

set_option autoImplicit false

namespace BlogOperator

open BlogOperator.Json BlogOperator.Kubernetes

/-- What an object that belongs to a blog is for. -/
inductive ChildKind where
  /-- Storage for the blog's content. -/
  | volumeClaim
  /-- The pods that run the blog. -/
  | deployment
  /-- One address for the pods. -/
  | service
  /-- The route from outside to the service. -/
  | ingress
  deriving DecidableEq, Repr, Inhabited

namespace ChildKind

/-- All kinds, in the order in which children are seen to. -/
def all : List ChildKind := [volumeClaim, deployment, service, ingress]

/-- The name of a kind in conditions and messages. -/
def label : ChildKind → String
  | volumeClaim => "PVC"
  | deployment => "Deployment"
  | service => "Service"
  | ingress => "Ingress"

/-- The type of the condition that says that the child is not in place. -/
def notReady (kind : ChildKind) : String :=
  kind.label ++ "NotReady"

/-- What is said when the child could not be put in place. -/
def failureText : ChildKind → String
  | volumeClaim => "Failed to add PVC for Ghost"
  | deployment => "Failed to add or update Deployment for Ghost"
  | service => "Failed to add Service for Ghost"
  | ingress => "Failed to add Ingress for Ghost"

/-- What the name of a child begins with. -/
def nameStem : ChildKind → String
  | volumeClaim => "ghost-data-pvc-"
  | deployment => "ghost-deployment-"
  | service => "ghost-service-"
  | ingress => "ghost-ingress-"

/-- The name of a team's child. -/
def childName (kind : ChildKind) (team : String) : String :=
  kind.nameStem ++ team

/-- The objects of a kind. -/
abbrev Object : ChildKind → Type
  | volumeClaim => VolumeClaim
  | deployment => Deployment
  | service => Service
  | ingress => Ingress

/-- How objects of a kind are read. -/
def form : (kind : ChildKind) → Form kind.Object
  | volumeClaim => VolumeClaim.form
  | deployment => Deployment.form
  | service => Service.form
  | ingress => Ingress.form

/-- How an object of a kind is written. -/
def write : (kind : ChildKind) → kind.Object → Json
  | volumeClaim => VolumeClaim.write
  | deployment => Deployment.write
  | service => Service.write
  | ingress => Ingress.write

/-- The metadata of an object. -/
def metadata : (kind : ChildKind) → kind.Object → Metadata
  | volumeClaim => VolumeClaim.metadata
  | deployment => Deployment.metadata
  | service => Service.metadata
  | ingress => Ingress.metadata

/-- An object with other metadata. -/
def withMetadata : (kind : ChildKind) → kind.Object → Metadata → kind.Object
  | volumeClaim, (live : VolumeClaim), metadata => { live with metadata }
  | deployment, (live : Deployment), metadata => { live with metadata }
  | service, (live : Service), metadata => { live with metadata }
  | ingress, (live : Ingress), metadata => { live with metadata }

@[simp] theorem metadata_withMetadata (kind : ChildKind) (object : kind.Object)
    (changed : Metadata) : kind.metadata (kind.withMetadata object changed) = changed := by
  cases kind <;> rfl

@[simp] theorem withMetadata_metadata (kind : ChildKind) (object : kind.Object) :
    kind.withMetadata object (kind.metadata object) = object := by
  cases kind <;> rfl

@[simp] theorem withMetadata_withMetadata (kind : ChildKind) (object : kind.Object)
    (first second : Metadata) :
    kind.withMetadata (kind.withMetadata object first) second =
      kind.withMetadata object second := by
  cases kind <;> rfl

theorem mem_all (kind : ChildKind) : kind ∈ all := by
  cases kind <;> simp [all]

end ChildKind

end BlogOperator
