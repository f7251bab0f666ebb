import BlogOperator.Cluster.Memory

/-!
# Calls that do not arrive

Between the controller and its cluster calls can get lost. An `Outage` is a cluster in memory with
sorts of calls that fail before they arrive there, each with a failure of its own; they leave no
trace in the cluster.
-/

set_option autoImplicit false

namespace BlogOperator

/-- A cluster that chosen sorts of calls do not reach. -/
structure Outage where
  memory : Memory := {}
  /-- The sorts of calls that do not arrive, and how they fail. -/
  losses : CallName → Option Failure := fun _ ↦ none

namespace Outage

/-- Answers a call, or lets it fail on its way. -/
def answer (request : Call) (outage : Outage) : request.Reply × Outage :=
  match outage.losses request.name with
  | some failure => (.error failure, outage)
  | none =>
    let (reply, memory) := outage.memory.answer request
    (reply, { outage with memory })

/-- Passes run against a cluster that some calls do not reach. -/
def environment : Environment Outage where
  answer := answer
  publish _ outage := ([], outage)

/-- Cuts a sort of calls off, or lets it through again. -/
def setLoss (outage : Outage) (name : CallName) (failure : Option Failure) : Outage :=
  { outage with losses := fun other ↦ if other = name then failure else outage.losses other }

end Outage

end BlogOperator
