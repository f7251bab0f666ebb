import BlogOperator.Proofs.Confinement
import BlogOperator.Proofs.Round

/-!
# Rounds for a team on its own

A `LoneTeam` is a cluster with one team in it: the view of the team, and the versions that will be
given to what is written, laid down from the start. Rounds are run against it in
`LoneTeam.environment`.

Where everything is filed under its own key (`TeamView.Filed`), the writes that a blog wants are
accepted (`TeamView.serveWrite_of_wants`). `Ghost.Leaves` lists what a step that succeeds may find
of a child and what it then leaves of it, which is always at rest (`Ghost.Leaves.atRest`) and is
left as it is from then on (`Ghost.Leaves.eq_of_atRest`). What a step does is known before it is
run: `TeamView.decision` is the failure it ends with or the write it makes, and
`LoneTeam.putInPlace_spec` says that it ends so. `LoneTeam.run_recordStatus` says what the offer of
a status does.
-/

set_option autoImplicit false

namespace BlogOperator

open BlogOperator.Kubernetes

/-! ### Filed views -/

/-- A view in which everything is under its own key. -/
structure TeamView.Filed (team : String) (view : TeamView) : Prop where
  ghosts : ∀ {name : String} {ghost : Ghost},
    view.ghosts name = some ghost → Key.ofMetadata ghost.metadata = ⟨team, name⟩
  children : ∀ {kind : ChildKind} {name : String} {object : kind.Object},
    view.children kind name = some object → Key.ofMetadata (kind.metadata object) = ⟨team, name⟩

section Found

variable {view : TeamView} {key : Key} {ghost : Ghost}

/-- The blog under a key belongs to the team of the key. -/
theorem TeamView.Filed.team_eq (hfiled : view.Filed key.namespaceName)
    (hghost : view.ghosts key.name = some ghost) : ghost.team = key.namespaceName :=
  congrArg Key.namespaceName (hfiled.ghosts hghost)

/-- The blog under a key has the name of the key. -/
theorem TeamView.Filed.name_eq (hfiled : view.Filed key.namespaceName)
    (hghost : view.ghosts key.name = some ghost) :
    (Key.ofMetadata ghost.metadata).name = key.name :=
  congrArg Key.name (hfiled.ghosts hghost)

end Found

/-- In an orderly cluster every team has a filed view. -/
theorem Memory.Orderly.filed {memory : Memory} (horderly : memory.Orderly) (team : String) :
    (memory.view team).Filed team where
  ghosts hghost := horderly.ghosts_filed hghost
  children hobject := horderly.children_filed hobject

/-! ### What a step leaves -/

/-- What a step that succeeds may find of a child, and what it leaves of it. -/
inductive Ghost.Leaves (ghost : Ghost) :
    (kind : ChildKind) → (found left : Option kind.Object) → Prop
  | kept {kind : ChildKind} {live : Option kind.Object} (hrest : ghost.AtRest kind live) :
      Leaves ghost kind live live
  | created {kind : ChildKind} {owner : OwnerReference} (version : UInt64)
      (howner : ghost.ownerReference? = some owner)
      (hwanted : kind = .ingress → ghost.spec.enableIngress = true) :
      Leaves ghost kind none (some (kind.stamped version (ghost.childOf owner kind)))
  | replaced {live : Deployment} (version : UInt64)
      (hdrifted : live.effectiveReplicas ≠ ghost.spec.replicas ∨
        live.firstImage? ≠ some (imageName ghost.spec.imageTag)) :
      Leaves ghost .deployment (some live)
        (some (ChildKind.deployment.stamped version { live with spec := ghost.deployment.spec }))
  | removed {live : Ingress} (hunwanted : ghost.spec.enableIngress = false) :
      Leaves ghost .ingress (some live) none

/-- A deployment with the specification that a blog asks for is at rest. -/
theorem Ghost.AtRest.of_spec {ghost : Ghost} {deployment : Deployment}
    (hspec : deployment.spec = ghost.deployment.spec) :
    ghost.AtRest .deployment (some deployment) := by
  obtain ⟨hreplicas, himage⟩ := Deployment.serves_iff.1 (Deployment.serves_of_spec hspec)
  exact .deployment hreplicas himage

/-- What a step leaves is at rest. -/
theorem Ghost.Leaves.atRest {ghost : Ghost} {kind : ChildKind} {found left : Option kind.Object}
    (hleaves : ghost.Leaves kind found left) : ghost.AtRest kind left := by
  cases hleaves with
  | kept hrest => exact hrest
  | created version howner hwanted =>
    cases kind with
    | volumeClaim => exact .volumeClaim _
    | deployment => exact .of_spec rfl
    | service => exact .service _
    | ingress => exact .ingress _ (hwanted rfl)
  | replaced version hdrifted => exact .of_spec rfl
  | removed hunwanted => exact .noIngress hunwanted

/-- A child at rest is left as it is. -/
theorem Ghost.Leaves.eq_of_atRest {ghost : Ghost} {kind : ChildKind}
    {found left : Option kind.Object} (hleaves : ghost.Leaves kind found left)
    (hrest : ghost.AtRest kind found) : left = found := by
  cases hleaves with
  | kept hlive => rfl
  | @created kind owner version howner hwanted =>
    have hwants : ghost.Wants ghost.team kind none (.create kind (ghost.childOf owner kind)) :=
      .creation howner hwanted
    exact absurd hrest hwants.not_atRest
  | @replaced live version hdrifted =>
    have hwants : ghost.Wants ghost.team .deployment (some live)
        (.replace { live with spec := ghost.deployment.spec }) := .replacement hdrifted
    exact absurd hrest hwants.not_atRest
  | @removed live hunwanted =>
    have hwants : ghost.Wants ghost.team .ingress (some live)
        (.remove ⟨ghost.team, ChildKind.ingress.childName ghost.team⟩) := .removal hunwanted
    exact absurd hrest hwants.not_atRest

/-- What a step has left, another leaves as it is. -/
theorem Ghost.Leaves.trans {ghost : Ghost} {kind : ChildKind}
    {found between left : Option kind.Object} (hfirst : ghost.Leaves kind found between)
    (hsecond : ghost.Leaves kind between left) : ghost.Leaves kind found left := by
  rw [hsecond.eq_of_atRest hfirst.atRest]
  exact hfirst

/-! ### Accepted writes -/

/-- The child that a write puts in place, if it puts one there. -/
def Write.object? : (write : Write) → Option write.kind.Object
  | .create _ object => some object
  | .replace deployment => some deployment
  | .remove _ => none

/-- The child that a write leaves when it is given a version. -/
def Write.left? (version : UInt64) (write : Write) : Option write.kind.Object :=
  write.object?.map (write.kind.stamped version)

/-- A child that has been written is filed under the key of the write. -/
theorem Write.ofMetadata_left? {version : UInt64} {write : Write} {object : write.kind.Object}
    (hleft : write.left? version = some object) :
    Key.ofMetadata (write.kind.metadata object) = write.key := by
  cases write with
  | create kind desired =>
    cases hleft
    change Key.ofMetadata (kind.metadata (kind.stamped version desired)) = _
    rw [ChildKind.metadata_stamped]
    rfl
  | replace deployment =>
    cases hleft
    rfl
  | remove key => cases hleft

namespace TeamView

/-- The view after a write that has been accepted. -/
def written (version : UInt64) (write : Write) (view : TeamView) : TeamView :=
  view.withChild write.kind write.key.name (write.left? version)

section Written

variable (version : UInt64) (write : Write) (view : TeamView)

@[simp] theorem faults_written : (view.written version write).faults = view.faults := rfl

theorem children_written_self :
    (view.written version write).children write.kind write.key.name = write.left? version :=
  view.children_withChild_self _ _ _

theorem children_written_of_ne {kind : ChildKind} {name : String}
    (hplace : kind ≠ write.kind ∨ name ≠ write.key.name) :
    (view.written version write).children kind name = view.children kind name :=
  view.children_withChild_of_ne hplace _

/-- A write is carried out, or it changes nothing. -/
theorem serveWrite_cases :
    (view.serveWrite version write).2 = view.written version write ∨
      (view.serveWrite version write).2 = view := by
  cases write with
  | create kind object =>
    unfold serveWrite
    dsimp only
    cases view.children kind (Key.ofMetadata (kind.metadata object)).name with
    | some stored => exact .inr rfl
    | none => exact .inl rfl
  | replace deployment =>
    unfold serveWrite
    dsimp only
    cases view.children .deployment (Key.ofMetadata deployment.metadata).name with
    | none => exact .inr rfl
    | some stored =>
      dsimp only
      split
      · exact .inl rfl
      · exact .inr rfl
  | remove key =>
    unfold serveWrite
    dsimp only
    cases view.children .ingress key.name with
    | none => exact .inr rfl
    | some stored => exact .inl rfl

end Written

variable {view : TeamView} {ghost : Ghost} {team : String} {kind : ChildKind} {write : Write}

/-- The writes that a blog wants are accepted. -/
theorem serveWrite_of_wants (hfiled : view.Filed team) (hteam : ghost.team = team)
    (hwants : ghost.Wants team kind (view.children kind (kind.childName team)) write)
    (version : UInt64) : view.serveWrite version write = (.ok (), view.written version write) := by
  have hkey := hwants.key_eq hteam fun object ↦ hfiled.children
  generalize hlive : view.children kind (kind.childName team) = live at hwants
  cases hwants with
  | @creation kind owner howner hwanted =>
    have hmetadata : Key.ofMetadata (kind.metadata (ghost.childOf owner kind)) =
      ⟨team, kind.childName team⟩ := hkey
    unfold serveWrite
    dsimp only
    rw [hmetadata, hlive]
    unfold written
    rw [hkey]
    rfl
  | @replacement live hdrifted =>
    have hmetadata : Key.ofMetadata live.metadata =
      ⟨team, ChildKind.deployment.childName team⟩ := hkey
    unfold serveWrite
    dsimp only
    rw [hmetadata, hlive]
    unfold written
    rw [hkey]
    exact if_pos rfl
  | removal hunwanted =>
    unfold serveWrite
    dsimp only
    rw [hlive]
    rfl

/-- A view stays filed when a blog's wish is carried out. -/
theorem Filed.written (hfiled : view.Filed team) (hteam : ghost.team = team)
    (hwants : ghost.Wants team kind (view.children kind (kind.childName team)) write)
    (version : UInt64) : (view.written version write).Filed team where
  ghosts hghost := hfiled.ghosts hghost
  children {other name object} hobject := by
    by_cases hplace : other ≠ write.kind ∨ name ≠ write.key.name
    · rw [children_written_of_ne _ _ _ hplace] at hobject
      exact hfiled.children hobject
    · obtain ⟨rfl, rfl⟩ : other = write.kind ∧ name = write.key.name := by simpa using hplace
      have hleft : write.left? version = some object := by
        rw [← hobject]
        exact (view.children_withChild_self _ _ _).symm
      have hkey := hwants.key_eq hteam fun object ↦ hfiled.children
      rw [Write.ofMetadata_left? hleft, hkey]

/-- A write that the blog wants leaves the child as it is to be left. -/
theorem leaves_written (hfiled : view.Filed team) (hteam : ghost.team = team)
    (hwants : ghost.Wants team kind (view.children kind (kind.childName team)) write)
    (version : UInt64) :
    ghost.Leaves kind (view.children kind (kind.childName team))
      ((view.written version write).children kind (kind.childName team)) := by
  have hkey := hwants.key_eq hteam fun object ↦ hfiled.children
  have hself := view.children_written_self version write
  rw [hkey] at hself
  generalize view.children kind (kind.childName team) = live at hwants ⊢
  cases hwants with
  | @creation kind owner howner hwanted =>
    change (view.written version _).children kind _ = some _ at hself
    rw [hself]
    exact .created version howner hwanted
  | @replacement live hdrifted =>
    change (view.written version _).children .deployment _ = some _ at hself
    rw [hself]
    exact .replaced version hdrifted
  | removal hunwanted =>
    change (view.written version _).children .ingress _ = none at hself
    rw [hself]
    exact .removed hunwanted

/-! ### Decisions -/

/-- What the step for a kind comes to: the failure that it ends with, the write that it makes, or
nothing. -/
def decision (view : TeamView) (ghost : Ghost) (team : String) (kind : ChildKind) :
    Except Failure (Option Write) :=
  match view.faults (.find kind) with
  | some message => .error (.api message)
  | none =>
    match ghost.due? team kind (view.children kind (kind.childName team)) with
    | .error failure => .error failure
    | .ok none => .ok none
    | .ok (some write) =>
      match view.faults write.name with
      | some message => .error (.api message)
      | none => .ok (some write)

/-- A decision depends on the faults and on the child alone. -/
theorem decision_congr {other : TeamView} (hfaults : other.faults = view.faults)
    (hchild : other.children kind (kind.childName team) =
      view.children kind (kind.childName team)) :
    other.decision ghost team kind = view.decision ghost team kind := by
  unfold decision
  rw [hfaults, hchild]

/-- The write that a step makes is one that the blog wants. -/
theorem wants_of_decision (hdecision : view.decision ghost team kind = .ok (some write)) :
    ghost.Wants team kind (view.children kind (kind.childName team)) write := by
  unfold decision at hdecision
  cases hlookup : view.faults (.find kind) with
  | some message =>
    rw [hlookup] at hdecision
    cases hdecision
  | none =>
    rw [hlookup] at hdecision
    rcases hdue : ghost.due? team kind (view.children kind (kind.childName team)) with
      failure | _ | due
    · simp only [hdue] at hdecision
      cases hdecision
    · simp only [hdue] at hdecision
      cases hdecision
    · simp only [hdue] at hdecision
      cases hfault : view.faults due.name with
      | some message =>
        rw [hfault] at hdecision
        cases hdecision
      | none =>
        rw [hfault] at hdecision
        cases hdecision
        exact Ghost.Wants.of_due? hdue

/-- A step makes no write only where the child is at rest. -/
theorem atRest_of_decision (hdecision : view.decision ghost team kind = .ok none) :
    ghost.AtRest kind (view.children kind (kind.childName team)) := by
  unfold decision at hdecision
  cases hlookup : view.faults (.find kind) with
  | some message =>
    rw [hlookup] at hdecision
    cases hdecision
  | none =>
    rw [hlookup] at hdecision
    rcases hdue : ghost.due? team kind (view.children kind (kind.childName team)) with
      failure | _ | due
    · simp only [hdue] at hdecision
      cases hdecision
    · exact Ghost.due?_eq_none_iff.1 hdue
    · simp only [hdue] at hdecision
      cases hfault : view.faults due.name with
      | some message =>
        rw [hfault] at hdecision
        cases hdecision
      | none =>
        rw [hfault] at hdecision
        cases hdecision

/-- After a step has made its write there is nothing left for it to do. -/
theorem decision_written (hfiled : view.Filed team) (hteam : ghost.team = team)
    (hdecision : view.decision ghost team kind = .ok (some write)) (version : UInt64) :
    (view.written version write).decision ghost team kind = .ok none := by
  have hrest := (leaves_written hfiled hteam (wants_of_decision hdecision) version).atRest
  have hlookup : view.faults (.find kind) = none := by
    unfold decision at hdecision
    cases hlookup : view.faults (.find kind) with
    | some message =>
      rw [hlookup] at hdecision
      cases hdecision
    | none => rfl
  unfold decision
  rw [faults_written, hlookup]
  simp only [Ghost.due?_eq_none_iff.2 hrest]

end TeamView

/-! ### A team on its own -/

/-- A cluster with one team in it. Every call uses up a version, whether it writes or not. -/
structure LoneTeam where
  view : TeamView
  /-- The versions that are still to be given, the next one first. -/
  versions : Nat → UInt64

namespace LoneTeam

/-- The cluster after a call, with the view that the call left. -/
def later (lone : LoneTeam) (view : TeamView) : LoneTeam :=
  ⟨view, fun index ↦ lone.versions (index + 1)⟩

/-- Answers a call. -/
def answer (request : Call) (lone : LoneTeam) : request.Reply × LoneTeam :=
  ((lone.view.answer (lone.versions 0) request).1,
    lone.later (lone.view.answer (lone.versions 0) request).2)

/-- Passes run against a team on its own. Notices are not kept. -/
def environment : Environment LoneTeam where
  answer := answer
  publish _ lone := ([], lone)

/-- A call that is made to fail changes nothing. -/
theorem answer_of_fault (lone : LoneTeam) (request : Call) {message : String}
    (hfault : lone.view.faults request.name = some message) :
    environment.answer request lone = (.error (.api message), lone.later lone.view) := by
  change answer request lone = _
  unfold answer TeamView.answer
  rw [hfault]

/-- A call that is not made to fail is served. -/
theorem answer_of_no_fault (lone : LoneTeam) (request : Call)
    (hfault : lone.view.faults request.name = none) :
    environment.answer request lone =
      ((lone.view.serve (lone.versions 0) request).1,
        lone.later (lone.view.serve (lone.versions 0) request).2) := by
  change answer request lone = _
  unfold answer TeamView.answer
  rw [hfault]

/-- A blog that can be read is read. -/
theorem answer_readGhost (lone : LoneTeam) (key : Key)
    (hfault : lone.view.faults .readGhost = none) :
    environment.answer (.readGhost key) lone =
      (.ok (lone.view.ghosts key.name), lone.later lone.view) :=
  lone.answer_of_no_fault (.readGhost key) hfault

variable {ghost : Ghost} {team : String} {lone : LoneTeam}

/-- What the step for a kind does. -/
theorem run_putInPlace (hfiled : lone.view.Filed team) (hteam : ghost.team = team)
    (kind : ChildKind) :
    let find := Call.find kind ⟨team, kind.childName team⟩
    let live := lone.view.children kind (kind.childName team)
    (ghost.putInPlace team kind).run environment lone =
      match lone.view.faults (.find kind) with
      | some message =>
        ⟨.error (.api message), [.called find (.error (.api message))], lone.later lone.view⟩
      | none =>
        match ghost.due? team kind live with
        | .error failure => ⟨.error failure, [.called find (.ok live)], lone.later lone.view⟩
        | .ok none =>
          ⟨.ok .unchanged,
            [.called find (.ok live), .logged (Ghost.idleLine team kind live.isNone)],
            lone.later lone.view⟩
        | .ok (some write) =>
          match lone.view.faults write.name with
          | some message =>
            ⟨.error (.api message),
              [.called find (.ok live), .called (.change write) (.error (.api message))],
              (lone.later lone.view).later lone.view⟩
          | none =>
            ⟨.ok write.outcome,
              [.called find (.ok live), .called (.change write) (.ok ()),
                .announced (ghost.notice write), .logged (ghost.writtenLine team write)],
              (lone.later lone.view).later (lone.view.written (lone.versions 1) write)⟩ := by
  intro find live
  rw [Ghost.run_putInPlace]
  cases hlookup : lone.view.faults (.find kind) with
  | some message => rw [lone.answer_of_fault find hlookup]
  | none =>
    have hfound : environment.answer find lone = (.ok live, lone.later lone.view) :=
      lone.answer_of_no_fault find hlookup
    rw [hfound]
    rcases hdue : ghost.due? team kind live with failure | _ | write
    · simp only [hdue]
      rfl
    · simp only [hdue]
      rfl
    · simp only [hdue]
      rw [Ghost.run_carryOut]
      cases hfault : lone.view.faults write.name with
      | some message =>
        rw [(lone.later lone.view).answer_of_fault (.change write) hfault]
        rfl
      | none =>
        have hserved := TeamView.serveWrite_of_wants hfiled hteam (Ghost.Wants.of_due? hdue)
          (lone.versions 1)
        have hchanged : environment.answer (.change write) (lone.later lone.view) =
            (.ok (), (lone.later lone.view).later
              (lone.view.written (lone.versions 1) write)) := by
          rw [(lone.later lone.view).answer_of_no_fault (.change write) hfault]
          change ((lone.view.serveWrite (lone.versions 1) write).1, (lone.later lone.view).later
            (lone.view.serveWrite (lone.versions 1) write).2) = _
          rw [hserved]
        rw [hchanged]
        rfl

/-- A step ends as was to be decided. It tells users of nothing but the write that it makes, and
makes no call but the lookup when it has nothing to do. -/
theorem putInPlace_spec (hfiled : lone.view.Filed team) (hteam : ghost.team = team)
    (kind : ChildKind) :
    let run := (ghost.putInPlace team kind).run environment lone
    match lone.view.decision ghost team kind with
    | .error failure =>
      run.result = .error failure ∧ run.notices = [] ∧ run.state.view = lone.view
    | .ok none =>
      run.result = .ok .unchanged ∧ run.notices = [] ∧ run.state.view = lone.view ∧
        ∀ exchange ∈ run.exchanges, exchange.request.name.isWrite = false
    | .ok (some write) =>
      run.result = .ok write.outcome ∧
        ∃ version, run.state.view = lone.view.written version write := by
  dsimp only
  rw [run_putInPlace hfiled hteam kind]
  unfold TeamView.decision
  cases lone.view.faults (.find kind) with
  | some message => exact ⟨rfl, rfl, rfl⟩
  | none =>
    rcases ghost.due? team kind (lone.view.children kind (kind.childName team)) with
      failure | _ | write
    · exact ⟨rfl, rfl, rfl⟩
    · refine ⟨rfl, rfl, rfl, fun exchange hexchange ↦ ?_⟩
      rw [List.mem_singleton.1 hexchange]
      rfl
    · dsimp only
      cases lone.view.faults write.name with
      | some message => exact ⟨rfl, rfl, rfl⟩
      | none => exact ⟨rfl, _, rfl⟩

/-! ### The status -/

end LoneTeam

/-- A blog as it is stored with a status and a version. -/
def Ghost.withStatus (ghost : Ghost) (version : UInt64) (status : GhostStatus) : Ghost :=
  { ghost with metadata := Memory.stamp version ghost.metadata, status := some status }

namespace LoneTeam

variable {ghost : Ghost} {lone : LoneTeam} {name : String}

/-- What the offer of a status does for a blog that has been read and not been changed since. -/
theorem run_recordStatus (hghost : lone.view.ghosts name = some ghost)
    (hname : (Key.ofMetadata ghost.metadata).name = name) (status : GhostStatus) :
    (ghost.recordStatus status).run environment lone =
      if Condition.sameIgnoringTime ghost.statusOrEmpty.conditions status.conditions then
        ⟨.ok (), [.logged { level := .debug, message := "Ghost status unchanged" }], lone⟩
      else
        match lone.view.faults .writeStatus with
        | some message =>
          ⟨.error (.api message), [.called (.writeStatus ghost status) (.error (.api message))],
            lone.later lone.view⟩
        | none =>
          ⟨.ok (), [.called (.writeStatus ghost status) (.ok ())],
            lone.later
              (lone.view.withGhost name (ghost.withStatus (lone.versions 0) status))⟩ := by
  rw [Ghost.run_recordStatus]
  by_cases hsame : Condition.sameIgnoringTime ghost.statusOrEmpty.conditions status.conditions
  · rw [if_pos hsame, if_pos hsame]
  · rw [if_neg hsame, if_neg hsame]
    cases hfault : lone.view.faults .writeStatus with
    | some message => rw [lone.answer_of_fault (.writeStatus ghost status) hfault]
    | none =>
      have hserved : lone.view.serveStatus (lone.versions 0) ghost status =
          (.ok (), lone.view.withGhost name (ghost.withStatus (lone.versions 0) status)) := by
        unfold TeamView.serveStatus
        dsimp only
        rw [hname, hghost]
        exact if_pos rfl
      have hanswer : environment.answer (.writeStatus ghost status) lone =
          (.ok (), lone.later
            (lone.view.withGhost name (ghost.withStatus (lone.versions 0) status))) := by
        rw [lone.answer_of_no_fault (.writeStatus ghost status) hfault]
        change ((lone.view.serveStatus (lone.versions 0) ghost status).1,
          lone.later (lone.view.serveStatus (lone.versions 0) ghost status).2) = _
        rw [hserved]
      rw [hanswer]

end LoneTeam

end BlogOperator
