import BlogOperator.Proofs.Course
import BlogOperator.Proofs.Recorded

/-!
# What a round reports

`RoundReport` lists the ways in which a round can end, each with the calls that it makes and with
its result. A blog that cannot be read ends it at once. A blog that has been read gets its steps,
and then one condition about them is put into the list that it was read with: that the child of the
first step that failed is not ready, or that all are ready. The status with this list is offered
exactly where it differs from the one that was read in more than times (`Ghost.Offered`). A failed
step decides the result of the round, whatever becomes of the offer; without one the offer does.

`roundReport_reconcile` says that every round ends in one of these ways, against any environment and
whatever conditions the blog had.
-/

set_option autoImplicit false

namespace BlogOperator

open BlogOperator.Time

/-- What becomes of a status for a blog, with the calls that are made for it: it is withheld where
it agrees with the present one in everything but the times, and else it is offered in one call. -/
inductive Ghost.Offered (ghost : Ghost) (status : GhostStatus) :
    List Exchange → Except Failure Unit → Prop
  | withheld
      (hsame : ghost.statusOrEmpty.conditions.map Condition.timeless =
        status.conditions.map Condition.timeless) : Offered ghost status [] (.ok ())
  | made (reply : Except Failure Unit)
      (hdiffers : ghost.statusOrEmpty.conditions.map Condition.timeless ≠
        status.conditions.map Condition.timeless) :
      Offered ghost status [⟨.writeStatus ghost status, reply⟩] reply

/-- The ways in which the round for a key can end, with the calls that it makes and its result. -/
inductive RoundReport (key : Key) (now : Instant) : List Exchange → Except Failure Unit → Prop
  /-- The blog cannot be read. -/
  | unread (failure : Failure) :
      RoundReport key now [⟨.readGhost key, .error failure⟩] (.error failure)
  /-- The blog is gone. -/
  | gone : RoundReport key now [⟨.readGhost key, .ok none⟩] (.ok ())
  /-- The step for a kind is the first to fail. -/
  | failed {ghost : Ghost} {records : List StepRecord} {kind : ChildKind} {failure : Failure}
      {status : GhostStatus} {offer : List Exchange} {reply : Except Failure Unit}
      (hsteps : ghost.StepsGo key.namespaceName ChildKind.all {} records (.error ⟨kind, failure⟩))
      (hstatus : Condition.PutInto {
          type := kind.notReady
          status := .fails
          reason := kind.notReady
          message := kind.failureText ++ ": " ++ failure.message
          lastTransitionTime := now.text }
        ghost.statusOrEmpty.conditions status.conditions)
      (hoffer : ghost.Offered status offer reply) :
      RoundReport key now (⟨.readGhost key, .ok (some ghost)⟩ ::
        (records.flatMap (StepRecord.exchanges key.namespaceName) ++ offer)) (.error failure)
  /-- All steps succeed, and all kinds are on record. -/
  | ready {ghost : Ghost} {records : List StepRecord} {readiness : Readiness}
      {status : GhostStatus} {offer : List Exchange} {reply : Except Failure Unit}
      (hsteps : ghost.StepsGo key.namespaceName ChildKind.all {} records (.ok readiness))
      (hcomplete : readiness.allReady = true)
      (hstatus : Condition.PutInto {
          type := "GhostReady"
          status := .holds
          reason := "AllSubresourcesReady"
          message := "All subresources are ready"
          lastTransitionTime := now.text }
        ghost.statusOrEmpty.conditions status.conditions)
      (hoffer : ghost.Offered status offer reply) :
      RoundReport key now (⟨.readGhost key, .ok (some ghost)⟩ ::
        (records.flatMap (StepRecord.exchanges key.namespaceName) ++ offer)) reply

variable {σ : Type} (environment : Environment σ)

/-- A status is offered unless it agrees with the present one in everything but the times. -/
theorem offered_recordStatus (ghost : Ghost) (status : GhostStatus) (state : σ) :
    let record := (ghost.recordStatus status).run environment state
    ghost.Offered status record.exchanges record.result := by
  dsimp only
  rw [Ghost.run_recordStatus]
  by_cases hsame : Condition.sameIgnoringTime ghost.statusOrEmpty.conditions status.conditions
  · rw [if_pos hsame]
    exact .withheld (Condition.sameIgnoringTime_iff.1 hsame)
  · rw [if_neg hsame]
    exact .made _ fun hequal ↦ hsame (Condition.sameIgnoringTime_iff.2 hequal)

/-- Every round makes the calls of one of the ways to end and has the result that goes with them,
whatever the cluster replies. -/
theorem roundReport_reconcile (key : Key) (now : Instant) (state : σ) :
    let run := (reconcile key now).run environment state
    RoundReport key now run.exchanges run.result := by
  dsimp only
  rw [run_reconcile]
  rcases environment.answer (.readGhost key) state with ⟨failure | _ | ghost, after⟩
  · exact .unread failure
  · exact .gone
  · obtain ⟨records, hsteps, hexchanges, -⟩ :=
      Ghost.putAllInPlace_goes environment ghost key.namespaceName ChildKind.all {} after
    have hcomplete := Ghost.allReady_putAllInPlace environment ghost key.namespaceName after
    obtain ⟨hresult, hround, -, -⟩ := reconcileGhost_spec environment key now ghost after
    simp only [Run.exchanges_after, Run.result_after, hround, hresult, hexchanges]
    generalize (ghost.putAllInPlace key.namespaceName ChildKind.all {}).run environment after =
      steps at *
    obtain ⟨result, happenings, later⟩ := steps
    cases result with
    | error setback =>
      exact .failed hsteps (Condition.putInto_upsert (setback.condition now) _)
        (offered_recordStatus environment ghost _ later)
    | ok readiness =>
      exact .ready hsteps (hcomplete readiness rfl)
        (Condition.putInto_upsert (readyCondition now) _)
        (offered_recordStatus environment ghost _ later)

end BlogOperator
