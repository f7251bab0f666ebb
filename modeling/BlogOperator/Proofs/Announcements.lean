import BlogOperator.Proofs.CallDiscipline
import BlogOperator.Proofs.Grounds
import BlogOperator.Proofs.Reachable
import Mathlib.Data.List.Forall2

/-!
# What users are told of a round

Three accounts are kept of what a round does to the children of a blog: the cluster sees the writes
that it accepts, users are told of them in notices, and the round counts them for its log. This
module shows that the three agree, whatever the cluster replies and wherever the round stops.

`Notice.TellsOf` says what a notice must say about an accepted write, with the words for it written
out in `Write.Words`. `Mirrored` says of all that happens in a run that every accepted write is
followed at once by its notice and that there is no other notice. It holds of no happenings and of
two runs one after the other (`Mirrored.append`), so that it is carried from one write
(`Ghost.mirrored_carryOut`) through the steps to the whole round (`mirrored_reconcileGhost`).
`Mirrored.tellsOf` reads off that the notices are those of the accepted writes, in order.

The count is followed along the ways in which the steps can go: a step that succeeded has changed
the count just when its write was accepted (`Ghost.StepGoes.length_accepted`,
`Ghost.StepsGo.writes_eq`). `accounts_agree` puts the three accounts together.
-/

set_option autoImplicit false

namespace BlogOperator

open BlogOperator.Kubernetes BlogOperator.Time

/-! ### Accepted writes and the notices of them -/

/-- The write of a child that was accepted in an exchange, if there was one. -/
def Exchange.accepted? : Exchange → Option Write
  | ⟨.change write, .ok ()⟩ => some write
  | _ => none

/-- The writes of children that were accepted in a run, in order. -/
def Run.acceptedWrites {σ α : Type} (run : Run σ α) : List Write :=
  run.exchanges.filterMap Exchange.accepted?

/-- The reason and the action that a notice of a write has to give. -/
inductive Write.Words : Write → String → String → Prop
  | volumeClaimCreated (object : VolumeClaim) :
      Words (.create .volumeClaim object) "PVCReady" "Create"
  | deploymentCreated (object : Deployment) :
      Words (.create .deployment object) "DeploymentCreated" "Create"
  | serviceCreated (object : Service) : Words (.create .service object) "ServiceCreated" "Create"
  | ingressCreated (object : Ingress) : Words (.create .ingress object) "IngressCreated" "Create"
  | deploymentReplaced (object : Deployment) : Words (.replace object) "DeploymentUpdated" "Update"
  | ingressRemoved (place : Key) : Words (.remove place) "IngressDeleted" "Delete"

/-- What a notice about a blog says of a write of one of its children: that the write went well, in
the words for it. -/
structure Notice.TellsOf (ghost : Ghost) (notice : Notice) (write : Write) : Prop where
  regarding : notice.regarding = {
    apiVersion := some "marketing.kb.dev/v1"
    kind := some "Ghost"
    name := ghost.metadata.name
    namespaceName := ghost.metadata.namespaceName
    uid := ghost.metadata.uid }
  kind : notice.kind = .normal
  words : write.Words notice.reason notice.action

/-- The reason and the action that are given for a write are the words for it. -/
theorem Write.words (write : Write) : write.Words write.reason write.action := by
  rcases write with ⟨kind, object⟩ | object | place
  · cases kind with
    | volumeClaim => exact .volumeClaimCreated object
    | deployment => exact .deploymentCreated object
    | service => exact .serviceCreated object
    | ingress => exact .ingressCreated object
  · exact .deploymentReplaced object
  · exact .ingressRemoved place

theorem Ghost.notice_tellsOf (ghost : Ghost) (write : Write) :
    (ghost.notice write).TellsOf ghost write where
  regarding := rfl
  kind := rfl
  words := write.words

/-! ### Notices that mirror the accepted writes -/

/-- Happenings in which every accepted write of a child is followed at once by a notice of it, and
in which there is no other notice. -/
inductive Mirrored (ghost : Ghost) : List Happening → Prop
  | nil : Mirrored ghost []
  | logged (line : LogLine) {rest : List Happening} (hrest : Mirrored ghost rest) :
      Mirrored ghost (.logged line :: rest)
  | quiet {request : Call} {reply : request.Reply} {rest : List Happening}
      (hquiet : Exchange.accepted? ⟨request, reply⟩ = none) (hrest : Mirrored ghost rest) :
      Mirrored ghost (.called request reply :: rest)
  | told {write : Write} {notice : Notice} {rest : List Happening}
      (htells : notice.TellsOf ghost write) (hrest : Mirrored ghost rest) :
      Mirrored ghost (.called (.change write) (.ok ()) :: .announced notice :: rest)

namespace Mirrored

variable {ghost : Ghost} {first second : List Happening}

theorem append (hfirst : Mirrored ghost first) (hsecond : Mirrored ghost second) :
    Mirrored ghost (first ++ second) := by
  induction hfirst with
  | nil => exact hsecond
  | logged line hrest ih => exact .logged line ih
  | quiet hquiet hrest ih => exact .quiet hquiet ih
  | told htells hrest ih => exact .told htells ih

/-- Lines of the log have no part in the notices. -/
theorem of_lines (lines : List LogLine) : Mirrored ghost (lines.map .logged) := by
  induction lines with
  | nil => exact .nil
  | cons line lines ih => exact .logged line ih

/-- The notices are those of the accepted writes, in order. -/
theorem tellsOf (hmirrored : Mirrored ghost first) :
    List.Forall₂ (Notice.TellsOf ghost) (first.filterMap Happening.notice?)
      ((first.filterMap Happening.exchange?).filterMap Exchange.accepted?) := by
  induction hmirrored with
  | nil => exact .nil
  | logged line hrest ih => simpa [List.filterMap_cons] using ih
  | quiet hquiet hrest ih => simpa [List.filterMap_cons, hquiet] using ih
  | told htells hrest ih =>
    simpa [List.filterMap_cons, Exchange.accepted?] using ⟨htells, ih⟩

end Mirrored

variable {σ : Type} (environment : Environment σ)

namespace Ghost

/-- An accepted write is announced at once, and a refused one is not. -/
theorem mirrored_carryOut (ghost : Ghost) (team : String) (write : Write) (state : σ) :
    Mirrored ghost ((ghost.carryOut team write).run environment state).happenings := by
  rw [run_carryOut]
  rcases environment.answer (.change write) state with ⟨failure | ⟨⟩, after⟩
  · exact .quiet rfl .nil
  · have hlines : Mirrored ghost ((environment.publish (ghost.notice write) after).1.map .logged ++
        [.logged (ghost.writtenLine team write)]) := (Mirrored.of_lines _).append (.logged _ .nil)
    exact .told (ghost.notice_tellsOf write) hlines

/-- The lookup of a step is not announced, nor is a step that ends without a write. -/
theorem mirrored_putInPlace (ghost : Ghost) (team : String) (kind : ChildKind) (state : σ) :
    Mirrored ghost ((ghost.putInPlace team kind).run environment state).happenings := by
  rw [run_putInPlace]
  rcases environment.answer (.find kind ⟨team, kind.childName team⟩) state with
    ⟨failure | live, after⟩
  · exact .quiet rfl .nil
  · dsimp only
    rcases ghost.due? team kind live with failure | _ | write
    · exact .quiet rfl .nil
    · exact .quiet rfl (.logged _ .nil)
    · exact .quiet rfl (ghost.mirrored_carryOut environment team write after)

theorem mirrored_putAllInPlace (ghost : Ghost) (team : String) (kinds : List ChildKind)
    (readiness : Readiness) (state : σ) :
    Mirrored ghost
      ((ghost.putAllInPlace team kinds readiness).run environment state).happenings := by
  induction kinds generalizing readiness state with
  | nil => exact .nil
  | cons kind kinds ih =>
    have hstep := ghost.mirrored_putInPlace environment team kind state
    rw [run_putAllInPlace_cons]
    dsimp only
    cases ((ghost.putInPlace team kind).run environment state).result with
    | error failure => exact hstep
    | ok outcome => exact hstep.append (ih _ _)

/-- The offer of a status is not announced. -/
theorem mirrored_recordStatus (ghost : Ghost) (status : GhostStatus) (state : σ) :
    Mirrored ghost ((ghost.recordStatus status).run environment state).happenings := by
  rw [run_recordStatus]
  split
  · exact .logged _ .nil
  · exact .quiet rfl .nil

end Ghost

/-- The end of a round in which a child could not be put in place is not announced. -/
theorem mirrored_endWithSetback (key : Key) (now : Instant) (ghost : Ghost) (setback : Setback)
    (state : σ) :
    Mirrored ghost ((endWithSetback key now ghost setback).run environment state).happenings := by
  unfold endWithSetback Pass.write
  rw [Pass.bind_log, Pass.run_log, Pass.bind_done, Pass.run_bind]
  have hrecord :=
    ghost.mirrored_recordStatus environment (ghost.statusWith (setback.condition now)) state
  refine .logged _ (hrecord.append ?_)
  rcases ((ghost.recordStatus (ghost.statusWith (setback.condition now))).run environment
    state).result with failure | ⟨⟩
  · exact .logged _ .nil
  · exact .nil

/-- The end of a round in which all children are in place is not announced. -/
theorem mirrored_endWithReadiness (key : Key) (now : Instant) (ghost : Ghost)
    (readiness : Readiness) (state : σ) :
    Mirrored ghost
      ((endWithReadiness key now ghost readiness).run environment state).happenings := by
  unfold endWithReadiness
  rw [Pass.run_bind]
  refine (ghost.mirrored_recordStatus environment _ state).append ?_
  rcases ((ghost.recordStatus _).run environment state).result with failure | ⟨⟩
  · exact .nil
  · exact .logged _ .nil

/-- Wherever the round for a blog that has been read stops, every write accepted up to there has
been announced at once. -/
theorem mirrored_reconcileGhost (key : Key) (now : Instant) (ghost : Ghost) (state : σ) :
    Mirrored ghost ((reconcileGhost key now ghost).run environment state).happenings := by
  have hsteps :=
    ghost.mirrored_putAllInPlace environment key.namespaceName ChildKind.all {} state
  rw [run_reconcileGhost]
  dsimp only [Run.happenings_after]
  refine (Mirrored.logged _ hsteps).append ?_
  cases ((ghost.putAllInPlace key.namespaceName ChildKind.all {}).run environment state).result with
  | error setback => exact mirrored_endWithSetback environment key now ghost setback _
  | ok readiness => exact mirrored_endWithReadiness environment key now ghost readiness _

/-! ### The count of the writes -/

theorem Readiness.writes_record (readiness : Readiness) (kind : ChildKind) (outcome : Outcome) :
    (readiness.record kind outcome).writes =
      readiness.writes + if outcome = .unchanged then 0 else 1 := by
  cases outcome <;> simp [writes, record]

theorem Write.outcome_ne_unchanged (write : Write) : write.outcome ≠ .unchanged := by
  rcases write with ⟨kind, object⟩ | object | place <;> simp [outcome]

namespace Ghost

variable {ghost : Ghost} {team : String}

/-- A step that leaves a child unchanged has no write accepted, and any other step that succeeds has
just one. -/
theorem StepGoes.length_accepted {kind : ChildKind} {record : StepRecord} {outcome : Outcome}
    (hgoes : ghost.StepGoes team kind record (.ok outcome)) :
    ((record.exchanges team).filterMap Exchange.accepted?).length =
      if outcome = .unchanged then 0 else 1 := by
  cases hgoes with
  | idle hdue => rfl
  | @accepted live write hdue =>
    rw [if_neg write.outcome_ne_unchanged]
    rfl

/-- When all steps succeed, the count has gone up by the number of the writes that were accepted. -/
theorem StepsGo.writes_eq {kinds : List ChildKind} {readiness last : Readiness}
    {records : List StepRecord} {result : Except Setback Readiness}
    (hgo : ghost.StepsGo team kinds readiness records result) (hresult : result = .ok last) :
    last.writes = readiness.writes +
      ((records.flatMap (StepRecord.exchanges team)).filterMap Exchange.accepted?).length := by
  induction hgo with
  | finished readiness =>
    cases hresult
    rfl
  | halted hstep => cases hresult
  | passed hstep hrest ih =>
    have hrecord := hstep.length_accepted
    rw [ih hresult, Readiness.writes_record, List.flatMap_cons, List.filterMap_append,
      List.length_append, hrecord, Nat.add_assoc]

end Ghost

/-- The offer of a status is no write of a child. -/
theorem accepted_recordStatus (ghost : Ghost) (status : GhostStatus) (state : σ) :
    ((ghost.recordStatus status).run environment state).acceptedWrites = [] := by
  obtain ⟨offered, hoffered⟩ := exchanges_recordStatus environment ghost status state
  rw [Run.acceptedWrites, hoffered]
  cases offered with
  | none => rfl
  | some offer => rfl

/-- What the log says last when a round has put all children in place. -/
def completionLine (key : Key) (readiness : Readiness) : LogLine where
  level := .info
  message := "Reconciliation complete"
  fields := [("ghost", .text key.text), ("writes", Json.integer readiness.writes)]

/-- A round that succeeds with its status has reported its count last. -/
theorem getLast?_endWithReadiness {key : Key} {now : Instant} {ghost : Ghost}
    {readiness : Readiness} {state : σ}
    (hresult : ((endWithReadiness key now ghost readiness).run environment state).result = .ok ()) :
    ((endWithReadiness key now ghost readiness).run environment state).happenings.getLast? =
      some (.logged (completionLine key readiness)) := by
  unfold endWithReadiness at *
  rw [Pass.run_bind] at *
  generalize (ghost.recordStatus _).run environment state = record at *
  obtain ⟨result, happenings, after⟩ := record
  cases result with
  | error failure => cases hresult
  | ok => exact List.getLast?_concat

/-- A round for a blog that has been read and that succeeds has put all children in place, and has
counted the writes of them that were accepted. -/
theorem count_reconcileGhost {key : Key} {now : Instant} {ghost : Ghost} {state : σ}
    (hresult : ((reconcileGhost key now ghost).run environment state).result = .ok ()) :
    let steps := (ghost.putAllInPlace key.namespaceName ChildKind.all {}).run environment state
    let round := (reconcileGhost key now ghost).run environment state
    ∃ readiness, steps.result = .ok readiness ∧
      round.happenings.getLast? = some (.logged (completionLine key readiness)) ∧
      readiness.writes = round.acceptedWrites.length := by
  intro steps round
  obtain ⟨records, hgo, hsteps, -⟩ :=
    Ghost.putAllInPlace_goes environment ghost key.namespaceName ChildKind.all {} state
  obtain ⟨hround, hexchanges, -⟩ := reconcileGhost_spec environment key now ghost state
  have hlast : ∀ readiness, steps.result = .ok readiness →
      round.happenings.getLast? = some (.logged (completionLine key readiness)) := by
    intro readiness hreadiness
    dsimp only [round]
    rw [run_reconcileGhost] at hresult ⊢
    dsimp only [steps] at hreadiness
    simp only [hreadiness] at hresult ⊢
    rw [Run.result_after] at hresult
    rw [Run.happenings_after, List.getLast?_append, getLast?_endWithReadiness environment hresult]
    rfl
  cases hready : steps.result with
  | error setback =>
    rw [hround] at hresult
    dsimp only [steps] at hready
    rw [hready] at hresult
    cases hresult
  | ok readiness =>
    refine ⟨readiness, rfl, hlast readiness hready, ?_⟩
    have hcount := hgo.writes_eq hready
    have hrecord := accepted_recordStatus environment ghost
      (ghost.statusWith (reportOf (steps.result.map fun _ ↦ ()) now)) steps.state
    calc readiness.writes
        = (steps.exchanges.filterMap Exchange.accepted?).length := by
          rw [hcount, ← hsteps]
          exact Nat.zero_add _
      _ = round.acceptedWrites.length := by
          unfold Run.acceptedWrites at *
          rw [hexchanges, List.filterMap_append, hrecord, List.append_nil]

/-! ### Whole rounds -/

/-- The accounts of a round agree, whatever the cluster replies. When no blog has been read, nothing
is written and nobody is told of anything. For a blog that has been read, the notices are in order
those of the writes that were accepted, each right after its write. If the round succeeds, the count
that it reports last is the number of those writes. -/
theorem accounts_agree (key : Key) (now : Instant) (state : σ) :
    let run := (reconcile key now).run environment state
    ((∀ ghost, ¬BeganWith key ghost run.exchanges) →
        run.acceptedWrites = [] ∧ run.notices = []) ∧
      ∀ ghost, BeganWith key ghost run.exchanges →
        Mirrored ghost run.happenings ∧
          List.Forall₂ (Notice.TellsOf ghost) run.notices run.acceptedWrites ∧
          (run.result = .ok () → ∃ readiness,
            ((ghost.putAllInPlace key.namespaceName ChildKind.all {}).run environment
              (environment.answer (.readGhost key) state).2).result = .ok readiness ∧
            run.happenings.getLast? = some (.logged (completionLine key readiness)) ∧
            readiness.writes = run.acceptedWrites.length) := by
  intro run
  dsimp only [run]
  rw [run_reconcile]
  rcases environment.answer (.readGhost key) state with ⟨failure | _ | read, after⟩
  · refine ⟨fun _ ↦ ⟨rfl, rfl⟩, fun ghost hbegan ↦ ?_⟩
    cases hbegan
  · refine ⟨fun _ ↦ ⟨rfl, rfl⟩, fun ghost hbegan ↦ ?_⟩
    cases hbegan
  · dsimp only
    constructor
    · intro hunread
      exact absurd rfl (hunread read)
    · intro ghost hbegan
      cases hbegan
      have hround := mirrored_reconcileGhost environment key now read after
      have hmirrored : Mirrored read (((reconcileGhost key now read).run environment after).after
          [.called (.readGhost key) (.ok (some read))]).happenings := .quiet rfl hround
      refine ⟨hmirrored, hmirrored.tellsOf, fun hresult ↦ ?_⟩
      obtain ⟨readiness, hsteps, hlast, hwrites⟩ := count_reconcileGhost environment hresult
      refine ⟨readiness, hsteps, ?_, hwrites⟩
      rw [Run.happenings_after, List.getLast?_append, hlast]
      rfl

/-- A blog that has just been applied gets four children, and users are told of each. In a cluster
without blogs nobody is told of anything. -/
theorem accounts_agree_marketing :
    let key : Key := ⟨"marketing", "blog"⟩
    let memory := ({} : Memory).perform (.apply {
      metadata := { name := some "blog", namespaceName := some "marketing" }
      spec := ⟨"5", 1, true⟩ })
    let run := (reconcile key .epoch).run Memory.environment memory
    let idle := (reconcile key .epoch).run Memory.environment {}
    idle.acceptedWrites = [] ∧ idle.notices = [] ∧ run.acceptedWrites.length = 4 ∧
      ∃ ghost, BeganWith key ghost run.exchanges ∧ run.result = .ok () ∧
        List.Forall₂ (Notice.TellsOf ghost) run.notices run.acceptedWrites ∧
        ∃ readiness, readiness.writes = run.acceptedWrites.length ∧
          run.happenings.getLast? = some (.logged (completionLine key readiness)) := by
  intro key memory run idle
  have hunread : ∀ ghost, ¬BeganWith key ghost idle.exchanges := by
    intro ghost hbegan
    cases hbegan
  obtain ⟨hwritten, htold⟩ := (accounts_agree Memory.environment key .epoch {}).1 hunread
  have hbegan : BeganWith key _ run.exchanges := rfl
  have hresult : run.result = .ok () := rfl
  obtain ⟨-, htells, hcount⟩ := (accounts_agree Memory.environment key .epoch memory).2 _ hbegan
  obtain ⟨readiness, -, hlast, hwrites⟩ := hcount hresult
  exact ⟨hwritten, htold, rfl, _, hbegan, hresult, htells, readiness, hwrites, hlast⟩

end BlogOperator
