import BlogOperator.Reconcile.Readiness
import BlogOperator.Reconcile.Step

/-!
# One round for one blog

`reconcile` is what the controller does about the blog under a key. It reads the blog; a blog that
is gone needs nothing, because its children go with it. It puts the children in place one after
another and stops at the first failure. Last it writes down how it went: that the child in question
is not ready and why, or that the blog is ready. The status is not written where only a time would
change, and the failure of a child outweighs a failure to write it down.
-/

set_option autoImplicit false

namespace BlogOperator

open BlogOperator.Kubernetes BlogOperator.Time

/-- A child that could not be put in place, and why. -/
structure Setback where
  kind : ChildKind
  failure : Failure

namespace Ghost

/-- Puts children in place one after another, up to the first that cannot be. -/
def putAllInPlace (ghost : Ghost) (team : String) :
    List ChildKind → Readiness → Pass (Except Setback Readiness)
  | [], readiness => return .ok readiness
  | kind :: kinds, readiness => do
    match ← ghost.putInPlace team kind with
    | .error failure => return .error ⟨kind, failure⟩
    | .ok outcome => ghost.putAllInPlace team kinds (readiness.record kind outcome)

/-- The status of a blog with one condition set. -/
def statusWith (ghost : Ghost) (condition : Condition) : GhostStatus where
  conditions := Condition.upsert condition ghost.statusOrEmpty.conditions

/-- Writes a status, unless it differs from the present one in nothing but times. -/
def recordStatus (ghost : Ghost) (status : GhostStatus) : Pass (Except Failure Unit) := do
  if Condition.sameIgnoringTime ghost.statusOrEmpty.conditions status.conditions then
    Pass.write { level := .debug, message := "Ghost status unchanged" }
    return .ok ()
  else Pass.ask (.writeStatus ghost status)

end Ghost

/-- The condition that says that a child is not in place. -/
def Setback.condition (setback : Setback) (now : Instant) : Condition :=
  .stamped setback.kind.notReady .fails setback.kind.notReady
    s!"{setback.kind.failureText}: {setback.failure.message}" now

/-- The condition that says that all children are in place. -/
def readyCondition (now : Instant) : Condition :=
  .stamped Condition.ghostReady .holds Condition.allSubresourcesReady
    "All subresources are ready" now

/-- What the log says when a round begins. -/
def beginningLine (key : Key) (ghost : Ghost) : LogLine where
  level := .info
  message := "Reconciling Ghost"
  fields := [
    ("name", .text key.name), ("team", .text key.namespaceName),
    ("image_tag", .text ghost.spec.imageTag),
    ("replicas", Json.integer ghost.spec.replicas.toInt),
    ("enable_ingress", .bool ghost.spec.enableIngress)]

/-- Ends a round in which a child could not be put in place. -/
def endWithSetback (key : Key) (now : Instant) (ghost : Ghost) (setback : Setback) :
    Pass (Except Failure Unit) := do
  Pass.write {
    level := .error
    message := setback.kind.failureText
    fields := [
      ("ghost", .text key.text), ("kind", .text setback.kind.label),
      ("error", .text setback.failure.message)] }
  match ← ghost.recordStatus (ghost.statusWith (setback.condition now)) with
  | .ok () => pure ()
  | .error failure =>
    Pass.write {
      level := .warn
      message := "Failed to record failure condition"
      fields := [("ghost", .text key.text), ("error", .text failure.message)] }
  return .error setback.failure

/-- Ends a round in which every child has been put in place. -/
def endWithReadiness (key : Key) (now : Instant) (ghost : Ghost) (readiness : Readiness) :
    Pass (Except Failure Unit) := do
  let status := if readiness.allReady then ghost.statusWith (readyCondition now)
    else ghost.statusOrEmpty
  match ← ghost.recordStatus status with
  | .error failure => return .error failure
  | .ok () =>
    Pass.write {
      level := .info
      message := "Reconciliation complete"
      fields := [("ghost", .text key.text), ("writes", Json.integer readiness.writes)] }
    return .ok ()

/-- The round for a blog that has been read. -/
def reconcileGhost (key : Key) (now : Instant) (ghost : Ghost) : Pass (Except Failure Unit) := do
  Pass.write (beginningLine key ghost)
  match ← ghost.putAllInPlace key.namespaceName ChildKind.all {} with
  | .error setback => endWithSetback key now ghost setback
  | .ok readiness => endWithReadiness key now ghost readiness

/-- The round for the blog under a key. Conditions that it writes are stamped with `now`, the
reading of the clock during the round. -/
def reconcile (key : Key) (now : Instant) : Pass (Except Failure Unit) := do
  match ← Pass.ask (.readGhost key) with
  | .error failure => return .error failure
  | .ok none =>
    Pass.write {
      level := .info
      message := "Ghost not found, assuming deleted"
      fields := [("ghost", .text key.text)] }
    return .ok ()
  | .ok (some ghost) => reconcileGhost key now ghost

end BlogOperator
