import BlogOperator.Child.Desired

/-!
# Standings

The `Standing` of a child says what has to be done about it: it is absent, it is settled, or it has
drifted from what the blog asks for. A claim or a service that exists is settled. A deployment is
settled when it runs the right number of pods with the right image in their first container; edits
of anything else are left alone. An ingress is settled when the blog wants one.
-/

set_option autoImplicit false

namespace BlogOperator

open BlogOperator.Kubernetes

/-- How a child compares with what is asked for. -/
inductive Standing (α : Type) where
  /-- There is no such object. -/
  | absent
  /-- The object needs no write. -/
  | settled (object : α)
  /-- The object must be rewritten or removed. -/
  | drifted (object : α)
  deriving DecidableEq, Repr

/-- The object that a standing is about. -/
def Standing.object? {α : Type} : Standing α → Option α
  | .absent => none
  | .settled object => some object
  | .drifted object => some object

/-- The number of pods a deployment runs: the cluster takes one where none is given. -/
def Kubernetes.DeploymentSpec.effectiveReplicas (spec : DeploymentSpec) : Int32 :=
  spec.replicas.getD 1

/-- The image of the first container of a deployment's pods. -/
def Kubernetes.DeploymentSpec.firstImage? (spec : DeploymentSpec) : Option String := do
  let pod ← spec.template.spec
  let container ← pod.containers.head?
  container.image

/-- Whether a deployment runs what a blog asks for. -/
def Kubernetes.Deployment.serves (deployment : Deployment) (ghost : Ghost) : Bool :=
  match deployment.spec with
  | none => false
  | some spec =>
    spec.effectiveReplicas == ghost.spec.replicas &&
      spec.firstImage? == some (imageName ghost.spec.imageTag)

namespace Standing

/-- The standing of an object that `fits` tells settled from drifted. -/
def judge {α : Type} (fits : α → Bool) : Option α → Standing α
  | none => .absent
  | some object => if fits object then .settled object else .drifted object

/-- The standing of a child that is never rewritten. -/
def ofImmutable {α : Type} (live : Option α) : Standing α :=
  judge (fun _ ↦ true) live

/-- The standing of a deployment. -/
def ofDeployment (live : Option Deployment) (ghost : Ghost) : Standing Deployment :=
  judge (fun deployment ↦ deployment.serves ghost) live

/-- The standing of an ingress. -/
def ofIngress (live : Option Ingress) (enabled : Bool) : Standing Ingress :=
  judge (fun _ ↦ enabled) live

/-- The standing of a blog's child. -/
def ofChild (ghost : Ghost) : (kind : ChildKind) → Option kind.Object → Standing kind.Object
  | .volumeClaim, live => ofImmutable live
  | .deployment, live => ofDeployment live ghost
  | .service, live => ofImmutable live
  | .ingress, live => ofIngress live ghost.spec.enableIngress

end Standing

end BlogOperator
