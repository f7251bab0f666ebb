import BlogOperator.Child.Desired
import BlogOperator.Failure

/-!
# Owners of children

A child refers to its blog as its controlling owner, so that the cluster removes the child when the
blog is gone. A blog can be referred to once the cluster has given it an identity and it has a name
of its own. `Metadata.own` puts a new reference at the end and drops an older one to the same
identity.
-/

set_option autoImplicit false

namespace BlogOperator

open BlogOperator.Kubernetes

/-- The reference by which children name a blog as the owner that manages them. -/
def Ghost.ownerReference? (ghost : Ghost) : Option OwnerReference := do
  let name ← ghost.metadata.name
  let uid ← ghost.metadata.uid
  return {
    apiVersion := apiVersion
    kind := kind
    name
    uid
    controller := some true }

namespace Ghost

/-- A reference can name a blog that has a name and an identity, and it bears both. -/
theorem ownerReference?_eq_some_iff {ghost : Ghost} {owner : OwnerReference} :
    ghost.ownerReference? = some owner ↔
      ∃ name uid, ghost.metadata.name = some name ∧ ghost.metadata.uid = some uid ∧
        owner = { apiVersion, kind, name, uid, controller := some true } := by
  unfold ownerReference?
  cases ghost.metadata.name with
  | none => simp
  | some name =>
    cases ghost.metadata.uid with
    | none => simp
    | some uid => simp [eq_comm]

end Ghost

namespace Kubernetes.Metadata

/-- Metadata with an owner added behind the others, in place of an older reference to it. -/
def own (owner : OwnerReference) (metadata : Metadata) : Metadata :=
  let references := metadata.ownerReferences.getD []
  { metadata with
    ownerReferences := some (references.filter (fun reference ↦ reference.uid ≠ owner.uid) ++
      [owner]) }

end Kubernetes.Metadata

namespace Ghost

/-- Metadata with a blog as their controlling owner. -/
def adopt (ghost : Ghost) (metadata : Metadata) : Except Failure Metadata :=
  match ghost.ownerReference? with
  | some owner => .ok (metadata.own owner)
  | none => .error .missingIdentity

/-- The child of a kind as it is created: in the desired form, with the blog as its owner. -/
def ownedChild (ghost : Ghost) (kind : ChildKind) : Except Failure kind.Object := do
  let object := ghost.child kind
  return kind.withMetadata object (← ghost.adopt (kind.metadata object))

end Ghost

end BlogOperator
