import BlogOperator.Proofs.Round

/-!
# The course of a round

A `StepRecord` is what the cluster sees of the step for one child: what the lookup found, and the
write that followed with its reply. `Ghost.StepGoes` lists the ways in which a step can go, and
`Ghost.StepsGo` those of the steps one after another, the first failure being the last step.
`putInPlace_goes` and `putAllInPlace_goes` say that every run goes one of these ways, whatever the
cluster replies: the exchanges and the notices of the run are those of the records, and the result
is the one that goes with them.

`StepRecord.Succeeded` reads off the replies alone whether a step succeeded
(`StepGoes.succeeded_iff`).
-/

set_option autoImplicit false

namespace BlogOperator

open BlogOperator.Kubernetes

/-! ### Steps on record -/

/-- What the cluster sees of the step for one child. -/
structure StepRecord where
  kind : ChildKind
  /-- The reply to the lookup. -/
  found : Except Failure (Option kind.Object)
  /-- The write after the lookup and the reply to it, if there was a write. -/
  written : Option (Write × Except Failure Unit) := none

namespace StepRecord

/-- The exchanges of a step: one lookup under the name of the team's child, and the write. -/
def exchanges (team : String) (record : StepRecord) : List Exchange :=
  ⟨.find record.kind ⟨team, record.kind.childName team⟩, record.found⟩ ::
    record.written.toList.map fun written ↦ ⟨.change written.1, written.2⟩

/-- The notices of a step: one for a write that was accepted, and no other. -/
def notices (ghost : Ghost) (record : StepRecord) : List Notice :=
  match record.written with
  | some (write, .ok ()) => [ghost.notice write]
  | some (_, .error _) => []
  | none => []

/-- A step succeeded when its lookup was answered and its write, if there was one, was accepted.
Without a write the child must have been at rest. -/
def Succeeded (ghost : Ghost) (record : StepRecord) : Prop :=
  ∃ live, record.found = .ok live ∧
    match record.written with
    | none => ghost.AtRest record.kind live
    | some (_, reply) => reply = .ok ()

/-- A write is warranted when it is of the kind of the step and the blog wants it after what the
lookup found. -/
def Warranted (ghost : Ghost) (team : String) (record : StepRecord) : Prop :=
  ∀ write reply, record.written = some (write, reply) →
    write.kind = record.kind ∧
      ∃ live, record.found = .ok live ∧ ghost.Wants team record.kind live write

end StepRecord

namespace Ghost

/-! ### The ways in which a step can go -/

/-- The ways in which the step for one child can go, with the result of each. -/
inductive StepGoes (ghost : Ghost) (team : String) (kind : ChildKind) :
    StepRecord → Except Failure Outcome → Prop
  /-- The lookup fails. -/
  | lost (failure : Failure) :
      StepGoes ghost team kind ⟨kind, .error failure, none⟩ (.error failure)
  /-- The child is missing and cannot be created for this blog. -/
  | unowned {live : Option kind.Object} {failure : Failure}
      (hdue : ghost.due? team kind live = .error failure) :
      StepGoes ghost team kind ⟨kind, .ok live, none⟩ (.error failure)
  /-- The child is at rest. -/
  | idle {live : Option kind.Object} (hdue : ghost.due? team kind live = .ok none) :
      StepGoes ghost team kind ⟨kind, .ok live, none⟩ (.ok .unchanged)
  /-- The write fails. -/
  | refused {live : Option kind.Object} {write : Write} (failure : Failure)
      (hdue : ghost.due? team kind live = .ok (some write)) :
      StepGoes ghost team kind ⟨kind, .ok live, some (write, .error failure)⟩ (.error failure)
  /-- The write succeeds. -/
  | accepted {live : Option kind.Object} {write : Write}
      (hdue : ghost.due? team kind live = .ok (some write)) :
      StepGoes ghost team kind ⟨kind, .ok live, some (write, .ok ())⟩ (.ok write.outcome)

/-- Every step goes one of these ways, whatever the cluster replies. -/
theorem putInPlace_goes {σ : Type} (environment : Environment σ) (ghost : Ghost) (team : String)
    (kind : ChildKind) (state : σ) :
    ∃ record,
      let run := (ghost.putInPlace team kind).run environment state
      ghost.StepGoes team kind record run.result ∧ run.exchanges = record.exchanges team ∧
        run.notices = record.notices ghost := by
  simp only [run_putInPlace]
  rcases environment.answer (.find kind ⟨team, kind.childName team⟩) state with
    ⟨failure | live, after⟩
  · exact ⟨_, .lost failure, rfl, rfl⟩
  · cases hdue : ghost.due? team kind live with
    | error failure =>
      simp only [hdue]
      exact ⟨_, .unowned hdue, rfl, rfl⟩
    | ok due =>
      cases due with
      | none =>
        simp only [hdue]
        exact ⟨_, .idle hdue, rfl, rfl⟩
      | some write =>
        simp only [hdue, run_carryOut]
        rcases environment.answer (.change write) after with ⟨failure | ⟨⟩, later⟩
        · exact ⟨_, .refused failure hdue, rfl, rfl⟩
        · refine ⟨_, .accepted hdue, ?_, ?_⟩
          · simp [Run.exchanges, StepRecord.exchanges, List.filterMap_cons]
          · simp [Run.notices, StepRecord.notices, List.filterMap_cons]

namespace StepGoes

variable {ghost : Ghost} {team : String} {kind : ChildKind} {record : StepRecord}
  {result : Except Failure Outcome}

theorem kind_eq (hgoes : ghost.StepGoes team kind record result) : record.kind = kind := by
  cases hgoes <;> rfl

theorem warranted (hgoes : ghost.StepGoes team kind record result) :
    record.Warranted ghost team := by
  intro write reply hwritten
  cases hgoes with
  | lost failure => cases hwritten
  | unowned hdue => cases hwritten
  | idle hdue => cases hwritten
  | refused failure hdue =>
    cases hwritten
    exact ⟨(Wants.of_due? hdue).kind_eq, _, rfl, Wants.of_due? hdue⟩
  | accepted hdue =>
    cases hwritten
    exact ⟨(Wants.of_due? hdue).kind_eq, _, rfl, Wants.of_due? hdue⟩

/-- The replies alone tell whether a step succeeded. -/
theorem succeeded_iff (hgoes : ghost.StepGoes team kind record result) :
    record.Succeeded ghost ↔ ∃ outcome, result = .ok outcome := by
  cases hgoes with
  | lost failure => simp [StepRecord.Succeeded]
  | @unowned live failure hdue =>
    have hbusy : ¬ghost.AtRest kind live := by
      intro hrest
      have hnone : ghost.due? team kind live = .ok none := due?_eq_none_iff.2 hrest
      rw [hdue] at hnone
      cases hnone
    simp [StepRecord.Succeeded, hbusy]
  | idle hdue => simpa [StepRecord.Succeeded] using due?_eq_none_iff.1 hdue
  | refused failure hdue => simp [StepRecord.Succeeded]
  | accepted hdue => simp [StepRecord.Succeeded]

end StepGoes

/-! ### Steps one after another -/

/-- The ways in which the steps for some kinds can go one after another. -/
inductive StepsGo (ghost : Ghost) (team : String) :
    List ChildKind → Readiness → List StepRecord → Except Setback Readiness → Prop
  | finished (readiness : Readiness) : StepsGo ghost team [] readiness [] (.ok readiness)
  | halted {kind : ChildKind} {kinds : List ChildKind} {readiness : Readiness}
      {record : StepRecord} {failure : Failure}
      (hstep : ghost.StepGoes team kind record (.error failure)) :
      StepsGo ghost team (kind :: kinds) readiness [record] (.error ⟨kind, failure⟩)
  | passed {kind : ChildKind} {kinds : List ChildKind} {readiness : Readiness}
      {record : StepRecord} {records : List StepRecord} {outcome : Outcome}
      {result : Except Setback Readiness}
      (hstep : ghost.StepGoes team kind record (.ok outcome))
      (hrest : StepsGo ghost team kinds (readiness.record kind outcome) records result) :
      StepsGo ghost team (kind :: kinds) readiness (record :: records) result

/-- The steps one after another go one of these ways, whatever the cluster replies. -/
theorem putAllInPlace_goes {σ : Type} (environment : Environment σ) (ghost : Ghost)
    (team : String) (kinds : List ChildKind) (readiness : Readiness) (state : σ) :
    ∃ records,
      let run := (ghost.putAllInPlace team kinds readiness).run environment state
      ghost.StepsGo team kinds readiness records run.result ∧
        run.exchanges = records.flatMap (StepRecord.exchanges team) ∧
        run.notices = records.flatMap (StepRecord.notices ghost) := by
  induction kinds generalizing readiness state with
  | nil => exact ⟨[], .finished readiness, rfl, rfl⟩
  | cons kind kinds ih =>
    obtain ⟨record, hgoes, hexchanges, hnotices⟩ :=
      putInPlace_goes environment ghost team kind state
    simp only [run_putAllInPlace_cons]
    generalize (ghost.putInPlace team kind).run environment state = step at *
    obtain ⟨result, happenings, after⟩ := step
    cases result with
    | error failure =>
      refine ⟨[record], .halted hgoes, ?_, ?_⟩
      · simpa [Run.exchanges] using hexchanges
      · simpa [Run.notices] using hnotices
    | ok outcome =>
      obtain ⟨records, hrest, hexchanges', hnotices'⟩ := ih (readiness.record kind outcome) after
      refine ⟨record :: records, .passed hgoes hrest, ?_, ?_⟩
      · rw [Run.exchanges_after, hexchanges', List.flatMap_cons, ← hexchanges]
        rfl
      · rw [Run.notices_after, hnotices', List.flatMap_cons, ← hnotices]
        rfl

namespace StepsGo

variable {ghost : Ghost} {team : String} {kinds : List ChildKind} {readiness : Readiness}
  {records : List StepRecord} {result : Except Setback Readiness}

/-- The kinds are seen to in order, from the first one on. -/
theorem kinds_prefix (hgo : ghost.StepsGo team kinds readiness records result) :
    records.map StepRecord.kind <+: kinds := by
  induction hgo with
  | finished readiness => exact List.nil_prefix
  | halted hstep =>
    rw [List.map_singleton, hstep.kind_eq]
    exact List.prefix_append [_] _
  | passed hstep hrest ih =>
    rw [List.map_cons, hstep.kind_eq]
    exact List.cons_prefix_cons.2 ⟨rfl, ih⟩

theorem warranted (hgo : ghost.StepsGo team kinds readiness records result) :
    ∀ record ∈ records, record.Warranted ghost team := by
  induction hgo with
  | finished readiness => simp
  | halted hstep => simpa using hstep.warranted
  | passed hstep hrest ih => simpa using ⟨hstep.warranted, ih⟩

/-- Every step but the last one succeeded. -/
theorem succeeded (hgo : ghost.StepsGo team kinds readiness records result) :
    ∀ record ∈ records.dropLast, record.Succeeded ghost := by
  induction hgo with
  | finished readiness => simp
  | halted hstep => simp
  | @passed kind kinds readiness record records outcome result hstep hrest ih =>
    cases records with
    | nil => simp
    | cons next rest => simpa using ⟨hstep.succeeded_iff.2 ⟨outcome, rfl⟩, ih⟩

/-- The steps stop short of the last kind only for a failure. -/
theorem kinds_eq (hgo : ghost.StepsGo team kinds readiness records result)
    (hall : ∀ record ∈ records, record.Succeeded ghost) :
    records.map StepRecord.kind = kinds := by
  induction hgo with
  | finished readiness => rfl
  | @halted kind kinds readiness record failure hstep =>
    obtain ⟨outcome, houtcome⟩ := hstep.succeeded_iff.1 (hall record (by simp))
    cases houtcome
  | passed hstep hrest ih =>
    rw [List.map_cons, hstep.kind_eq, ih fun record hrecord ↦ hall record (by simp [hrecord])]

end StepsGo

end Ghost

end BlogOperator
