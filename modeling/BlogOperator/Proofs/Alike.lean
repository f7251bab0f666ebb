import BlogOperator.Proofs.Rest
import BlogOperator.Proofs.Unversioned

/-!
# Rounds with other versions

Two runs are `Run.Alike` when they have the same result, the same happenings and leave the same
things behind, all without regard to versions. `LoneTeam.alike_reconcile` says that rounds for teams
that have the same things, versions aside, are alike. The versions may differ from the start, and
other ones may be given on the way: a write that refers to a version refers to the one that has just
been read, in each of the rounds to its own.
-/

set_option autoImplicit false

namespace BlogOperator

open BlogOperator.Kubernetes BlogOperator.Time

/-! ### Runs that are alike -/

/-- Runs that are the same but for versions. -/
structure Run.Alike {α : Type} (first second : Run LoneTeam α) : Prop where
  result : first.result = second.result
  happenings : first.happenings.map Happening.unversioned =
    second.happenings.map Happening.unversioned
  view : first.state.view.unversioned = second.state.view.unversioned

namespace Run.Alike

variable {α β : Type}

theorem after {first second : Run LoneTeam α} (halike : first.Alike second)
    {past past' : List Happening}
    (hpast : past.map Happening.unversioned = past'.map Happening.unversioned) :
    (first.after past).Alike (second.after past') where
  result := halike.result
  happenings := by simp [hpast, halike.happenings]
  view := halike.view

/-- Composed passes run alike if their parts do. -/
theorem bind {pass pass' : Pass α} {next next' : α → Pass β} {lone lone' : LoneTeam}
    (hpass : (pass.run LoneTeam.environment lone).Alike (pass'.run LoneTeam.environment lone'))
    (hnext : ((next (pass.run LoneTeam.environment lone).result).run LoneTeam.environment
        (pass.run LoneTeam.environment lone).state).Alike
      ((next' (pass.run LoneTeam.environment lone).result).run LoneTeam.environment
        (pass'.run LoneTeam.environment lone').state)) :
    ((pass >>= next).run LoneTeam.environment lone).Alike
      ((pass' >>= next').run LoneTeam.environment lone') := by
  rw [Pass.run_bind, Pass.run_bind, ← hpass.result]
  exact hnext.after hpass.happenings

theorem done {value : α} {lone lone' : LoneTeam}
    (hview : lone.view.unversioned = lone'.view.unversioned) :
    ((Pass.done value).run LoneTeam.environment lone).Alike
      ((Pass.done value).run LoneTeam.environment lone') where
  result := rfl
  happenings := rfl
  view := hview

theorem log {line : LogLine} {next next' : Pass α} {lone lone' : LoneTeam}
    (hnext : (next.run LoneTeam.environment lone).Alike
      (next'.run LoneTeam.environment lone')) :
    ((Pass.log line next).run LoneTeam.environment lone).Alike
      ((Pass.log line next').run LoneTeam.environment lone') := by
  rw [Pass.run_log, Pass.run_log]
  exact hnext.after rfl

end Run.Alike

/-! ### Parts of a round -/

namespace LoneTeam

variable {ghost ghost' : Ghost} {team : String} {lone lone' : LoneTeam}

/-- A lookup that finds the same but for the version. -/
theorem unversioned_find (kind : ChildKind) (key : Key) {live live' : Option kind.Object}
    (hlive : live.map kind.unversioned = live'.map kind.unversioned) :
    Happening.unversioned (.called (.find kind key) (.ok live)) =
      Happening.unversioned (.called (.find kind key) (.ok live')) := by
  unfold Happening.unversioned Except.map
  dsimp only
  rw [hlive]

/-- The steps for a kind are alike. -/
theorem alike_putInPlace (hview : lone.view.unversioned = lone'.view.unversioned)
    (hghost : ghost.unversioned = ghost'.unversioned) (hfiled : lone.view.Filed team)
    (hfiled' : lone'.view.Filed team) (hteam : ghost.team = team) (hteam' : ghost'.team = team)
    (kind : ChildKind) :
    ((ghost.putInPlace team kind).run environment lone).Alike
      ((ghost'.putInPlace team kind).run environment lone') := by
  have hfaults := TeamView.faults_of_unversioned hview
  have hlive := TeamView.children_of_unversioned hview kind (kind.childName team)
  have hlookup := unversioned_find kind ⟨team, kind.childName team⟩ hlive
  rw [run_putInPlace hfiled hteam kind, run_putInPlace hfiled' hteam' kind, hfaults]
  cases lone'.view.faults (.find kind) with
  | some message => exact ⟨rfl, rfl, hview⟩
  | none =>
    rcases Ghost.due?_alike hghost hlive team with
      ⟨failure, hdue, hdue'⟩ | ⟨hdue, hdue'⟩ | ⟨write, write', hdue, hdue', hwrite⟩
    · simp only [hdue, hdue']
      refine ⟨rfl, ?_, hview⟩
      rw [List.map_cons, hlookup]
      rfl
    · have hnone : (lone.view.children kind (kind.childName team)).isNone =
          (lone'.view.children kind (kind.childName team)).isNone := by
        rw [← Option.isNone_map, hlive, Option.isNone_map]
      simp only [hdue, hdue']
      refine ⟨rfl, ?_, hview⟩
      rw [List.map_cons, hlookup, hnone]
      rfl
    · simp only [hdue, hdue']
      have hname : write.name = write'.name := by
        rw [← write.name_unversioned, hwrite, write'.name_unversioned]
      have houtcome : write.outcome = write'.outcome := by
        rw [← write.outcome_unversioned, hwrite, write'.outcome_unversioned]
      have hnotice : ghost.notice write = ghost'.notice write' := by
        rw [← ghost.notice_unversioned, hghost, hwrite, ghost'.notice_unversioned]
      have hline : ghost.writtenLine team write = ghost'.writtenLine team write' := by
        rw [← ghost.writtenLine_unversioned, hghost, hwrite, ghost'.writtenLine_unversioned]
      have hcall (reply : Except Failure Unit) :
          Happening.unversioned (.called (.change write) reply) =
            Happening.unversioned (.called (.change write') reply) := by
        change Happening.called (.change write.unversioned) reply = _
        rw [hwrite]
        rfl
      rw [hname]
      cases lone'.view.faults write'.name with
      | some message =>
        refine ⟨rfl, ?_, hview⟩
        simp only [List.map_cons, hlookup, hcall]
      | none =>
        refine ⟨by rw [houtcome], ?_, ?_⟩
        · simp only [List.map_cons, hlookup, hcall, hnotice, hline]
        · change (lone.view.written _ write).unversioned = (lone'.view.written _ write').unversioned
          rw [TeamView.unversioned_written, TeamView.unversioned_written, hview, hwrite]

/-- The steps one after another are alike. -/
theorem alike_putAllInPlace (hview : lone.view.unversioned = lone'.view.unversioned)
    (hghost : ghost.unversioned = ghost'.unversioned) (hfiled : lone.view.Filed team)
    (hfiled' : lone'.view.Filed team) (hteam : ghost.team = team) (hteam' : ghost'.team = team)
    (kinds : List ChildKind) (readiness : Readiness) :
    ((ghost.putAllInPlace team kinds readiness).run environment lone).Alike
      ((ghost'.putAllInPlace team kinds readiness).run environment lone') := by
  induction kinds generalizing lone lone' readiness with
  | nil => exact .done hview
  | cons kind kinds ih =>
    have hstep := alike_putInPlace hview hghost hfiled hfiled' hteam hteam' kind
    have hafter := (tended_putInPlace hfiled hteam kind).2
    have hafter' := (tended_putInPlace hfiled' hteam' kind).2
    rw [Ghost.putAllInPlace, Ghost.putAllInPlace]
    refine hstep.bind ?_
    cases ((ghost.putInPlace team kind).run environment lone).result with
    | error failure => exact .done hstep.view
    | ok outcome => exact ih hstep.view hafter hafter' (readiness.record kind outcome)

/-- The offers of a status are alike. -/
theorem alike_recordStatus {name : String} (hview : lone.view.unversioned = lone'.view.unversioned)
    (halike : ghost.unversioned = ghost'.unversioned)
    (hghost : lone.view.ghosts name = some ghost) (hghost' : lone'.view.ghosts name = some ghost')
    (hname : (Key.ofMetadata ghost.metadata).name = name)
    (hname' : (Key.ofMetadata ghost'.metadata).name = name) (status : GhostStatus) :
    ((ghost.recordStatus status).run environment lone).Alike
      ((ghost'.recordStatus status).run environment lone') := by
  have hpresent := Ghost.statusOrEmpty_of_unversioned halike
  have hcall (reply : Except Failure Unit) :
      Happening.unversioned (.called (.writeStatus ghost status) reply) =
        Happening.unversioned (.called (.writeStatus ghost' status) reply) := by
    change Happening.called (.writeStatus ghost.unversioned status) reply = _
    rw [halike]
    rfl
  rw [run_recordStatus hghost hname, run_recordStatus hghost' hname', hpresent,
    TeamView.faults_of_unversioned hview]
  split
  · exact ⟨rfl, rfl, hview⟩
  · cases lone'.view.faults .writeStatus with
    | some message =>
      refine ⟨rfl, ?_, hview⟩
      simp only [List.map_cons, hcall]
    | none =>
      refine ⟨rfl, ?_, ?_⟩
      · simp only [List.map_cons, hcall]
      · have hwritten (ghost : Ghost) (version : UInt64) :
            (ghost.withStatus version status).unversioned =
              { metadata := ghost.unversioned.metadata.blank, spec := ghost.unversioned.spec,
                status := some status } := rfl
        change (lone.view.withGhost name _).unversioned = (lone'.view.withGhost name _).unversioned
        rw [TeamView.unversioned_withGhost, TeamView.unversioned_withGhost, hview, hwritten,
          hwritten, halike]

end LoneTeam

/-! ### Whole rounds -/

namespace LoneTeam

variable {ghost ghost' : Ghost} (lone lone' : LoneTeam) {key : Key}

/-- The ends of rounds with a setback are alike. -/
theorem alike_endWithSetback (halike : ghost.unversioned = ghost'.unversioned)
    (hrecord : ∀ status, ((ghost.recordStatus status).run environment lone).Alike
      ((ghost'.recordStatus status).run environment lone')) (now : Instant) (setback : Setback) :
    ((endWithSetback key now ghost setback).run environment lone).Alike
      ((endWithSetback key now ghost' setback).run environment lone') := by
  have hstatus := Ghost.statusWith_of_unversioned halike (setback.condition now)
  have hrecord := hrecord (ghost.statusWith (setback.condition now))
  unfold endWithSetback
  rw [← hstatus]
  refine .log (hrecord.bind ?_)
  cases ((ghost.recordStatus (ghost.statusWith (setback.condition now))).run environment
    lone).result with
  | error failure => exact .log (.done hrecord.view)
  | ok => exact .done hrecord.view

/-- The ends of rounds in which all children are ready are alike. -/
theorem alike_endWithReadiness (halike : ghost.unversioned = ghost'.unversioned)
    (hrecord : ∀ status, ((ghost.recordStatus status).run environment lone).Alike
      ((ghost'.recordStatus status).run environment lone')) (now : Instant)
    {readiness : Readiness} (hready : readiness.allReady = true) :
    ((endWithReadiness key now ghost readiness).run environment lone).Alike
      ((endWithReadiness key now ghost' readiness).run environment lone') := by
  have hstatus := Ghost.statusWith_of_unversioned halike (readyCondition now)
  have hrecord := hrecord (ghost.statusWith (readyCondition now))
  unfold endWithReadiness
  rw [if_pos hready, if_pos hready, ← hstatus]
  refine hrecord.bind ?_
  cases ((ghost.recordStatus (ghost.statusWith (readyCondition now))).run environment
    lone).result with
  | error failure => exact .done hrecord.view
  | ok => exact .log (.done hrecord.view)

/-- The rounds for a blog that has been read are alike. -/
theorem alike_reconcileGhost (hview : lone.view.unversioned = lone'.view.unversioned)
    (halike : ghost.unversioned = ghost'.unversioned)
    (hfiled : lone.view.Filed key.namespaceName) (hfiled' : lone'.view.Filed key.namespaceName)
    (hghost : lone.view.ghosts key.name = some ghost)
    (hghost' : lone'.view.ghosts key.name = some ghost') (now : Instant) :
    ((reconcileGhost key now ghost).run environment lone).Alike
      ((reconcileGhost key now ghost').run environment lone') := by
  have hteam := hfiled.team_eq hghost
  have hteam' := hfiled'.team_eq hghost'
  have hbeginning : beginningLine key ghost = beginningLine key ghost' := by
    change beginningLine key ghost.unversioned = beginningLine key ghost'.unversioned
    rw [halike]
  have hsteps := alike_putAllInPlace hview halike hfiled hfiled' hteam hteam' ChildKind.all {}
  have htended := (tended_putAllInPlace hfiled hteam ChildKind.all {}).1
  have htended' := (tended_putAllInPlace hfiled' hteam' ChildKind.all {}).1
  have hrecord := alike_recordStatus hsteps.view halike (htended.ghosts ▸ hghost)
    (htended'.ghosts ▸ hghost') (hfiled.name_eq hghost) (hfiled'.name_eq hghost')
  have hready := Ghost.allReady_putAllInPlace environment ghost key.namespaceName lone
  unfold reconcileGhost
  rw [hbeginning]
  refine .log (hsteps.bind ?_)
  cases hresult : ((ghost.putAllInPlace key.namespaceName ChildKind.all {}).run environment
    lone).result with
  | error setback => exact alike_endWithSetback _ _ halike hrecord now setback
  | ok readiness => exact alike_endWithReadiness _ _ halike hrecord now (hready readiness hresult)

/-- Rounds for teams that have the same things, versions aside, are alike. -/
theorem alike_reconcile (hview : lone.view.unversioned = lone'.view.unversioned)
    (hfiled : lone.view.Filed key.namespaceName) (hfiled' : lone'.view.Filed key.namespaceName)
    (now : Instant) :
    ((reconcile key now).run environment lone).Alike
      ((reconcile key now).run environment lone') := by
  have hfaults := TeamView.faults_of_unversioned hview
  have hghosts := TeamView.ghosts_of_unversioned hview key.name
  rw [run_reconcile, run_reconcile]
  cases hfault : lone.view.faults .readGhost with
  | some message =>
    rw [lone.answer_of_fault (.readGhost key) hfault,
      lone'.answer_of_fault (.readGhost key) (hfaults ▸ hfault)]
    exact ⟨rfl, rfl, hview⟩
  | none =>
    rw [lone.answer_readGhost key hfault, lone'.answer_readGhost key (hfaults ▸ hfault)]
    cases hghost : lone.view.ghosts key.name with
    | none =>
      rw [hghost, Option.map_none, eq_comm, Option.map_eq_none_iff] at hghosts
      rw [hghosts]
      exact ⟨rfl, rfl, hview⟩
    | some ghost =>
      rw [hghost, Option.map_some, eq_comm, Option.map_eq_some_iff] at hghosts
      obtain ⟨ghost', hghost', halike⟩ := hghosts
      rw [hghost']
      refine Run.Alike.after (alike_reconcileGhost (lone.later lone.view)
        (lone'.later lone'.view) hview halike.symm hfiled hfiled' hghost hghost' now) ?_
      change [Happening.called (.readGhost key) (.ok (some ghost.unversioned))] = _
      rw [← halike]
      rfl

end LoneTeam

end BlogOperator
