import BlogOperator.Proofs.Course

/-!
# The calls of a round

`RoundCalls` is the pattern that the calls of a round follow. The blog is read first. If there is
one, some kinds of children are seen to in order, each by one lookup under the name of the team's
child and at most one write of the same kind; last, the status is offered at most once. A kind is
seen to only when the steps before it succeeded, and all kinds are when every step succeeded. A
write is made only where the blog wants it after what the lookup found (`Ghost.Wants`): a creation
after the lookup found nothing, a replacement after it found a deployment that differs in replicas
or first image, a removal after it found an ingress that is switched off.

`roundCalls_reconcile` says that every round follows this pattern, against any environment: its
replies may be any function of the calls so far, and need not be those of a sound cluster.
-/

set_option autoImplicit false

namespace BlogOperator

open BlogOperator.Kubernetes BlogOperator.Time

/-- The pattern of the calls of the round for a key, with the replies to them. -/
inductive RoundCalls (key : Key) : List Exchange → Prop
  /-- The blog cannot be read. -/
  | unread (failure : Failure) : RoundCalls key [⟨.readGhost key, .error failure⟩]
  /-- The blog is gone. -/
  | gone : RoundCalls key [⟨.readGhost key, .ok none⟩]
  /-- The blog has been read: the steps for its children follow, and the offer of a status. -/
  | read {ghost : Ghost} {records : List StepRecord}
      {offered : Option (GhostStatus × Except Failure Unit)}
      (horder : records.map StepRecord.kind <+: ChildKind.all)
      (hwarranted : ∀ record ∈ records, record.Warranted ghost key.namespaceName)
      (hentered : ∀ record ∈ records.dropLast, record.Succeeded ghost)
      (hcomplete : (∀ record ∈ records, record.Succeeded ghost) →
        records.map StepRecord.kind = ChildKind.all) :
      RoundCalls key (⟨.readGhost key, .ok (some ghost)⟩ ::
        (records.flatMap (StepRecord.exchanges key.namespaceName) ++
          offered.toList.map fun offer ↦ ⟨.writeStatus ghost offer.1, offer.2⟩))

variable {σ : Type} (environment : Environment σ)

/-- A status is offered at most once. -/
theorem exchanges_recordStatus (ghost : Ghost) (status : GhostStatus) (state : σ) :
    ∃ offered : Option (GhostStatus × Except Failure Unit),
      ((ghost.recordStatus status).run environment state).exchanges =
        offered.toList.map fun offer ↦ ⟨.writeStatus ghost offer.1, offer.2⟩ := by
  rw [Ghost.run_recordStatus]
  split
  · exact ⟨none, rfl⟩
  · exact ⟨some (status, (environment.answer (.writeStatus ghost status) state).1), rfl⟩

/-- The calls for a blog that has been read are those of its steps and at most one offer of a
status. -/
theorem exchanges_reconcileGhost (key : Key) (now : Instant) (ghost : Ghost) (state : σ) :
    ∃ (records : List StepRecord) (offered : Option (GhostStatus × Except Failure Unit))
      (result : Except Setback Readiness),
      ghost.StepsGo key.namespaceName ChildKind.all {} records result ∧
        ((reconcileGhost key now ghost).run environment state).exchanges =
          records.flatMap (StepRecord.exchanges key.namespaceName) ++
            offered.toList.map fun offer ↦ ⟨.writeStatus ghost offer.1, offer.2⟩ := by
  obtain ⟨records, hgo, hexchanges, -⟩ :=
    Ghost.putAllInPlace_goes environment ghost key.namespaceName ChildKind.all {} state
  obtain ⟨-, hround, -⟩ := reconcileGhost_spec environment key now ghost state
  obtain ⟨offered, hoffered⟩ := exchanges_recordStatus environment ghost _ _
  exact ⟨records, offered, _, hgo, by rw [hround, hexchanges, hoffered]⟩

/-- Every round keeps to the pattern of calls, whatever the cluster replies. -/
theorem roundCalls_reconcile (key : Key) (now : Instant) (state : σ) :
    RoundCalls key ((reconcile key now).run environment state).exchanges := by
  rw [run_reconcile]
  rcases environment.answer (.readGhost key) state with ⟨failure | _ | ghost, after⟩
  · exact .unread failure
  · exact .gone
  · obtain ⟨records, offered, result, hgo, hexchanges⟩ :=
      exchanges_reconcileGhost environment key now ghost after
    simp only [Run.exchanges_after, hexchanges]
    exact .read hgo.kinds_prefix hgo.warranted hgo.succeeded hgo.kinds_eq

end BlogOperator
