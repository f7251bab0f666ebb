import BlogOperator.Child.Owner
import BlogOperator.Child.Standing
import BlogOperator.Reconcile.Pass

/-!
# Putting one child in place

`Ghost.write?` decides by the standing of a child what is to be written, if anything: an absent
child is created, unless it is an ingress that nobody wants; a deployment that has drifted keeps
its metadata and gets the desired specification; an ingress that is no longer wanted is removed.
`Ghost.putInPlace` looks the child up and carries the decision out.
-/

set_option autoImplicit false

namespace BlogOperator

open BlogOperator.Kubernetes

namespace ChildKind

/-- The name of a kind's log field that holds the child's name. -/
def field : ChildKind → String
  | volumeClaim => "pvc"
  | deployment => "deployment"
  | service => "service"
  | ingress => "ingress"

end ChildKind

namespace Ghost

/-- The write that the standing of a child asks for. The children of the blog are looked for in
`team`, which is the blog's own team wherever the cluster gave the blog. -/
def write? (ghost : Ghost) (team : String) :
    (kind : ChildKind) → Standing kind.Object → Except Failure (Option Write)
  | .ingress, .absent =>
    if ghost.spec.enableIngress then
      return some (.create .ingress (← ghost.ownedChild .ingress))
    else return none
  | kind, .absent => return some (.create kind (← ghost.ownedChild kind))
  | .deployment, .drifted (live : Deployment) =>
    return some (.replace { live with spec := ghost.deployment.spec })
  | .ingress, .drifted _ => return some (.remove ⟨team, ChildKind.ingress.childName team⟩)
  | _, _ => return none

/-- What the log says when a child needs no write. -/
def idleLine (team : String) (kind : ChildKind) (absent : Bool) : LogLine where
  level := .debug
  message := match kind, absent with
    | .volumeClaim, _ => "PVC already exists"
    | .deployment, _ => "Deployment is up to date"
    | .service, _ => "Service already exists"
    | .ingress, true => "Ingress disabled"
    | .ingress, false => "Ingress already exists, ignoring update"
  fields := [(kind.field, .text (kind.childName team))]

/-- What the log says when a child has been written. -/
def writtenLine (ghost : Ghost) (team : String) (write : Write) : LogLine where
  level := .info
  message := match write with
    | .create kind _ => kind.label ++ " created"
    | .replace _ => "Deployment updated"
    | .remove _ => "Ingress disabled, deleted"
  fields :=
    (write.kind.field, .text (write.kind.childName team)) ::
    match write with
    | .create .deployment _ => [("team", .text team)]
    | .replace _ => [
      ("replicas", Json.integer ghost.spec.replicas.toInt),
      ("image_tag", .text ghost.spec.imageTag)]
    | _ => []

/-- Makes a write, and tells users and the log when it has succeeded. -/
def carryOut (ghost : Ghost) (team : String) (write : Write) : Pass (Except Failure Outcome) := do
  match ← Pass.ask (.change write) with
  | .error failure => return .error failure
  | .ok () =>
    Pass.tell (ghost.notice write)
    Pass.write (ghost.writtenLine team write)
    return .ok write.outcome

/-- Puts the child of a kind in place: one lookup, and at most one write. -/
def putInPlace (ghost : Ghost) (team : String) (kind : ChildKind) :
    Pass (Except Failure Outcome) := do
  match ← Pass.ask (.find kind ⟨team, kind.childName team⟩) with
  | .error failure => return .error failure
  | .ok live =>
    match ghost.write? team kind (Standing.ofChild ghost kind live) with
    | .error failure => return .error failure
    | .ok none =>
      Pass.write (idleLine team kind live.isNone)
      return .ok .unchanged
    | .ok (some write) => ghost.carryOut team write

end Ghost

end BlogOperator
