import BlogOperator.Proofs.Due
import BlogOperator.Proofs.Run
import BlogOperator.Reconcile.Round

/-!
# Runs of the parts of a round

Each part of a round has one equation here that writes its run out: `run_carryOut` for a write,
`run_putInPlace` for the step of one child, `run_putAllInPlace_cons` for the steps one after
another, `run_recordStatus` for the status, `run_endWithSetback` and `run_endWithReadiness` for the
two ways to end, and `run_reconcile` for the whole. `reconcileGhost_spec` puts the two ways to end
together: a round is its steps, and then the offer of a status. The equations hold in every
environment, that is, against any cluster whatsoever. Later proofs cite them and do not open the
passes again.
-/

set_option autoImplicit false

namespace BlogOperator

open BlogOperator.Kubernetes BlogOperator.Time

variable {σ : Type} (environment : Environment σ)

/-- All is ready when the kinds on record are all that there are. -/
theorem Readiness.allReady_of_kinds {readiness : Readiness}
    (hkinds : readiness.outcomes.map Prod.fst = ChildKind.all) : readiness.allReady = true := by
  rw [allReady, List.all_eq_true]
  intro kind hkind
  rw [← hkinds] at hkind
  obtain ⟨entry, hentry, rfl⟩ := List.mem_map.1 hkind
  rw [isReady, List.any_eq_true]
  exact ⟨entry, hentry, by simp⟩

/-! ### Steps -/

namespace Ghost

/-- Carrying a write out is one call. An accepted write is announced and logged, a refused one is
not. -/
theorem run_carryOut (ghost : Ghost) (team : String) (write : Write) (state : σ) :
    (ghost.carryOut team write).run environment state =
      match environment.answer (.change write) state with
      | (.error failure, after) =>
        ⟨.error failure, [.called (.change write) (.error failure)], after⟩
      | (.ok (), after) =>
        ⟨.ok write.outcome,
          .called (.change write) (.ok ()) :: .announced (ghost.notice write) ::
            ((environment.publish (ghost.notice write) after).1.map .logged ++
              [.logged (ghost.writtenLine team write)]),
          (environment.publish (ghost.notice write) after).2⟩ := by
  unfold carryOut Pass.ask
  rw [Pass.bind_call, Pass.run_call]
  rcases environment.answer (.change write) state with ⟨failure | ⟨⟩, after⟩
  · rfl
  · rfl

/-- The cluster sees one call of a write that is carried out. -/
theorem exchanges_carryOut (ghost : Ghost) (team : String) (write : Write) (state : σ) :
    ((ghost.carryOut team write).run environment state).exchanges =
      [⟨.change write, (environment.answer (.change write) state).1⟩] := by
  have hlogged : ∀ lines : List LogLine,
      (lines.map Happening.logged).filterMap Happening.exchange? = [] := by
    intro lines
    simp
  rw [run_carryOut]
  rcases environment.answer (.change write) state with ⟨failure | ⟨⟩, after⟩
  · rfl
  · dsimp only [Run.exchanges]
    rw [List.filterMap_cons_some (Happening.exchange?_called _ _),
      List.filterMap_cons_none (Happening.exchange?_announced _), List.filterMap_append, hlogged]
    rfl

/-- Putting a child in place is one lookup, which ends the step if it fails; what it found decides
whether the step fails, ends without a write, or carries a write out. -/
theorem run_putInPlace (ghost : Ghost) (team : String) (kind : ChildKind) (state : σ) :
    (ghost.putInPlace team kind).run environment state =
      match environment.answer (.find kind ⟨team, kind.childName team⟩) state with
      | (.error failure, after) =>
        ⟨.error failure,
          [.called (.find kind ⟨team, kind.childName team⟩) (.error failure)], after⟩
      | (.ok live, after) =>
        match ghost.due? team kind live with
        | .error failure =>
          ⟨.error failure, [.called (.find kind ⟨team, kind.childName team⟩) (.ok live)], after⟩
        | .ok none =>
          ⟨.ok .unchanged, [.called (.find kind ⟨team, kind.childName team⟩) (.ok live),
            .logged (idleLine team kind live.isNone)], after⟩
        | .ok (some write) =>
          ((ghost.carryOut team write).run environment after).after
            [.called (.find kind ⟨team, kind.childName team⟩) (.ok live)] := by
  unfold putInPlace Pass.ask due?
  rw [Pass.bind_call, Pass.run_call]
  rcases environment.answer (.find kind ⟨team, kind.childName team⟩) state with
    ⟨failure | live, after⟩
  · rfl
  · simp only [Pass.bind_done]
    rcases ghost.write? team kind (Standing.ofChild ghost kind live) with failure | _ | write
    · rfl
    · rfl
    · rfl

/-- With no kind left to see to, nothing happens. -/
theorem run_putAllInPlace_nil (ghost : Ghost) (team : String) (readiness : Readiness) (state : σ) :
    (ghost.putAllInPlace team [] readiness).run environment state =
      ⟨.ok readiness, [], state⟩ := rfl

/-- The children of further kinds are seen to only after the step for the first kind succeeded. -/
theorem run_putAllInPlace_cons (ghost : Ghost) (team : String) (kind : ChildKind)
    (kinds : List ChildKind) (readiness : Readiness) (state : σ) :
    (ghost.putAllInPlace team (kind :: kinds) readiness).run environment state =
      let step := (ghost.putInPlace team kind).run environment state
      match step.result with
      | .error failure => ⟨.error ⟨kind, failure⟩, step.happenings, step.state⟩
      | .ok outcome =>
        ((ghost.putAllInPlace team kinds (readiness.record kind outcome)).run environment
          step.state).after step.happenings := by
  rw [putAllInPlace, Pass.run_bind]
  generalize (ghost.putInPlace team kind).run environment state = step
  obtain ⟨result, happenings, after⟩ := step
  cases result with
  | error failure => simp [Run.after]
  | ok outcome => rfl

/-- When all steps have succeeded, the kinds that have been seen to are on record. -/
theorem outcomes_putAllInPlace (ghost : Ghost) (team : String) (kinds : List ChildKind)
    {readiness last : Readiness} {state : σ}
    (hlast : ((ghost.putAllInPlace team kinds readiness).run environment state).result = .ok last) :
    last.outcomes.map Prod.fst = readiness.outcomes.map Prod.fst ++ kinds := by
  induction kinds generalizing readiness state with
  | nil =>
    rw [run_putAllInPlace_nil] at hlast
    cases hlast
    simp
  | cons kind kinds ih =>
    rw [run_putAllInPlace_cons] at hlast
    cases hstep : ((ghost.putInPlace team kind).run environment state).result with
    | error failure =>
      simp only [hstep] at hlast
      cases hlast
    | ok outcome =>
      simp only [hstep, Run.result_after] at hlast
      rw [ih hlast]
      simp [Readiness.record]

/-- When the steps for all kinds have succeeded, all is ready. -/
theorem allReady_putAllInPlace (ghost : Ghost) (team : String) (state : σ) (last : Readiness)
    (hlast : ((ghost.putAllInPlace team ChildKind.all {}).run environment state).result =
      .ok last) :
    last.allReady = true :=
  Readiness.allReady_of_kinds (outcomes_putAllInPlace environment ghost team ChildKind.all hlast)

/-- A status is offered to the cluster unless it differs from the present one in nothing but
times. -/
theorem run_recordStatus (ghost : Ghost) (status : GhostStatus) (state : σ) :
    (ghost.recordStatus status).run environment state =
      if Condition.sameIgnoringTime ghost.statusOrEmpty.conditions status.conditions then
        ⟨.ok (), [.logged { level := .debug, message := "Ghost status unchanged" }], state⟩
      else
        ⟨(environment.answer (.writeStatus ghost status) state).1,
          [.called (.writeStatus ghost status)
            (environment.answer (.writeStatus ghost status) state).1],
          (environment.answer (.writeStatus ghost status) state).2⟩ := by
  unfold recordStatus
  split
  · rfl
  · rfl

end Ghost

/-! ### Whole rounds -/

/-- A round with a setback ends with the failure of the child, whatever becomes of the status. -/
theorem run_endWithSetback (key : Key) (now : Instant) (ghost : Ghost) (setback : Setback)
    (state : σ) :
    let record := (ghost.recordStatus (ghost.statusWith (setback.condition now))).run
      environment state
    let ending := (endWithSetback key now ghost setback).run environment state
    ending.result = .error setback.failure ∧ ending.exchanges = record.exchanges ∧
      ending.notices = record.notices ∧ ending.state = record.state := by
  dsimp only
  unfold endWithSetback Pass.write
  rw [Pass.bind_log, Pass.run_log, Pass.bind_done, Pass.run_bind]
  generalize (ghost.recordStatus (ghost.statusWith (setback.condition now))).run environment
    state = record
  obtain ⟨result, happenings, after⟩ := record
  cases result with
  | error failure =>
    refine ⟨rfl, ?_, ?_, rfl⟩
    · simp [Run.exchanges, Pass.run_log, List.filterMap_cons]
    · simp [Run.notices, Pass.run_log, List.filterMap_cons]
  | ok =>
    refine ⟨rfl, ?_, ?_, rfl⟩
    · simp [Run.exchanges, List.filterMap_cons]
    · simp [Run.notices, List.filterMap_cons]

/-- A round in which all children are ready ends as the writing of its status does. -/
theorem run_endWithReadiness (key : Key) (now : Instant) (ghost : Ghost) {readiness : Readiness}
    (hready : readiness.allReady = true) (state : σ) :
    let record := (ghost.recordStatus (ghost.statusWith (readyCondition now))).run
      environment state
    let ending := (endWithReadiness key now ghost readiness).run environment state
    ending.result = record.result ∧ ending.exchanges = record.exchanges ∧
      ending.notices = record.notices ∧ ending.state = record.state := by
  dsimp only
  unfold endWithReadiness
  rw [if_pos hready, Pass.run_bind]
  generalize (ghost.recordStatus (ghost.statusWith (readyCondition now))).run environment
    state = record
  obtain ⟨result, happenings, after⟩ := record
  cases result with
  | error failure =>
    refine ⟨rfl, ?_, ?_, rfl⟩
    · simp [Run.exchanges]
    · simp [Run.notices]
  | ok =>
    refine ⟨rfl, ?_, ?_, rfl⟩
    · simp [Run.exchanges, Pass.write, Pass.run_log, List.filterMap_cons]
    · simp [Run.notices, Pass.write, Pass.run_log, List.filterMap_cons]

/-- The round for a blog that has been read sees to the children, and ends by how that went. -/
theorem run_reconcileGhost (key : Key) (now : Instant) (ghost : Ghost) (state : σ) :
    (reconcileGhost key now ghost).run environment state =
      let steps := (ghost.putAllInPlace key.namespaceName ChildKind.all {}).run environment state
      let ending := match steps.result with
        | .error setback => endWithSetback key now ghost setback
        | .ok readiness => endWithReadiness key now ghost readiness
      (ending.run environment steps.state).after
        (.logged (beginningLine key ghost) :: steps.happenings) := by
  unfold reconcileGhost Pass.write
  rw [Pass.bind_log, Pass.run_log, Pass.bind_done, Pass.run_bind, Run.after_after]
  rfl

/-- The condition that reports how the steps for the children went. -/
def reportOf : Except Setback Unit → Instant → Condition
  | .error setback => setback.condition
  | .ok () => readyCondition

theorem lastTransitionTime_reportOf (verdict : Except Setback Unit) (now : Instant) :
    (reportOf verdict now).lastTransitionTime = now.text := by
  cases verdict with
  | error setback => rfl
  | ok => rfl

/-- The result of a round, from how the steps and the offer of the status went. The failure of a
child outweighs that of the status. -/
def resultOf : Except Setback Unit → Except Failure Unit → Except Failure Unit
  | .error setback, _ => .error setback.failure
  | .ok (), reply => reply

/-- A round for a blog that has been read is its steps, and then the offer of a status that reports
how they went. -/
theorem reconcileGhost_spec (key : Key) (now : Instant) (ghost : Ghost) (state : σ) :
    let steps := (ghost.putAllInPlace key.namespaceName ChildKind.all {}).run environment state
    let verdict := steps.result.map fun _ ↦ ()
    let record := (ghost.recordStatus (ghost.statusWith (reportOf verdict now))).run environment
      steps.state
    let round := (reconcileGhost key now ghost).run environment state
    round.result = resultOf verdict record.result ∧
      round.exchanges = steps.exchanges ++ record.exchanges ∧
      round.notices = steps.notices ++ record.notices ∧ round.state = record.state := by
  have hready := Ghost.allReady_putAllInPlace environment ghost key.namespaceName state
  dsimp only
  rw [run_reconcileGhost]
  generalize (ghost.putAllInPlace key.namespaceName ChildKind.all {}).run environment state =
    steps at *
  obtain ⟨result, happenings, after⟩ := steps
  cases result with
  | error setback =>
    obtain ⟨hresult, hexchanges, hnotices, hstate⟩ :=
      run_endWithSetback environment key now ghost setback after
    refine ⟨hresult, ?_, ?_, hstate⟩
    · rw [Run.exchanges_after, hexchanges]
      rfl
    · rw [Run.notices_after, hnotices]
      rfl
  | ok readiness =>
    obtain ⟨hresult, hexchanges, hnotices, hstate⟩ :=
      run_endWithReadiness environment key now ghost (hready readiness rfl) after
    refine ⟨hresult, ?_, ?_, hstate⟩
    · rw [Run.exchanges_after, hexchanges]
      rfl
    · rw [Run.notices_after, hnotices]
      rfl

/-- What the log says of a blog that is gone. -/
def goneLine (key : Key) : LogLine where
  level := .info
  message := "Ghost not found, assuming deleted"
  fields := [("ghost", .text key.text)]

/-- A round reads the blog. It goes on only with a blog that has been found. -/
theorem run_reconcile (key : Key) (now : Instant) (state : σ) :
    (reconcile key now).run environment state =
      match environment.answer (.readGhost key) state with
      | (.error failure, after) =>
        ⟨.error failure, [.called (.readGhost key) (.error failure)], after⟩
      | (.ok none, after) =>
        ⟨.ok (), [.called (.readGhost key) (.ok none), .logged (goneLine key)], after⟩
      | (.ok (some ghost), after) =>
        ((reconcileGhost key now ghost).run environment after).after
          [.called (.readGhost key) (.ok (some ghost))] := by
  unfold reconcile Pass.ask
  rw [Pass.bind_call, Pass.run_call]
  rcases environment.answer (.readGhost key) state with ⟨failure | _ | ghost, after⟩
  · rfl
  · rfl
  · rfl

end BlogOperator
