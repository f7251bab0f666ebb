import BlogOperator.Proofs.Rest
import BlogOperator.Proofs.Traffic

/-!
# What one round brings about

`reconcile_converges` says what one undisturbed round for a blog brings about when no call is made
to fail, whatever state the cluster was in before. `Converged` lists it: what becomes of each child,
what is reported in the status, and that nothing else changes.

The children come from `LoneTeam.leaves_putAllInPlace`: a step that succeeds leaves its child as it
is to be left, and later steps leave the children of earlier ones alone. Without faults every step
for a blog that a reference can name succeeds (`LoneTeam.exists_readiness_putAllInPlace`). The
status comes from `LoneTeam.run_recordStatus`.
-/

set_option autoImplicit false

namespace BlogOperator

open BlogOperator.Kubernetes BlogOperator.Time

/-! ### For a team on its own -/

/-- Without faults the step for a kind never fails for a blog that a reference can name. -/
theorem TeamView.decision_of_no_faults {view : TeamView} {ghost : Ghost} {owner : OwnerReference}
    (hfaults : ∀ name, view.faults name = none) (howner : ghost.ownerReference? = some owner)
    (team : String) (kind : ChildKind) :
    ∃ due, view.decision ghost team kind = .ok due := by
  unfold decision
  rw [hfaults]
  rcases ghost.due?_cases team kind (view.children kind (kind.childName team)) with
    ⟨write, hdue, -⟩ | ⟨hdue, -⟩ | ⟨-, -, hnone⟩
  · simp only [hdue, hfaults]
    exact ⟨_, rfl⟩
  · simp only [hdue]
    exact ⟨_, rfl⟩
  · rw [howner] at hnone
    cases hnone

namespace LoneTeam

variable {ghost : Ghost} {team : String} {lone : LoneTeam}

/-- A step that succeeds leaves the child as it is to be left. -/
theorem leaves_putInPlace (hfiled : lone.view.Filed team) (hteam : ghost.team = team)
    (kind : ChildKind) (outcome : Outcome)
    (hresult : ((ghost.putInPlace team kind).run environment lone).result = .ok outcome) :
    ghost.Leaves kind (lone.view.children kind (kind.childName team))
      (((ghost.putInPlace team kind).run environment lone).state.view.children kind
        (kind.childName team)) := by
  have hspec := putInPlace_spec hfiled hteam kind
  rcases hdecision : lone.view.decision ghost team kind with failure | _ | write
  · simp only [hdecision] at hspec
    rw [hspec.1] at hresult
    cases hresult
  · simp only [hdecision] at hspec
    rw [hspec.2.2.1]
    exact .kept (TeamView.atRest_of_decision hdecision)
  · simp only [hdecision] at hspec
    obtain ⟨-, version, hview⟩ := hspec
    rw [hview]
    exact TeamView.leaves_written hfiled hteam (TeamView.wants_of_decision hdecision) version

/-- Steps that all succeed leave each child as it is to be left. -/
theorem leaves_putAllInPlace (hfiled : lone.view.Filed team) (hteam : ghost.team = team)
    {kinds : List ChildKind} (hkinds : kinds.Nodup) (readiness last : Readiness)
    (hlast : ((ghost.putAllInPlace team kinds readiness).run environment lone).result = .ok last) :
    ∀ kind ∈ kinds, ghost.Leaves kind (lone.view.children kind (kind.childName team))
      (((ghost.putAllInPlace team kinds readiness).run environment lone).state.view.children kind
        (kind.childName team)) := by
  induction kinds generalizing lone readiness with
  | nil => exact fun kind hkind ↦ by cases hkind
  | cons kind kinds ih =>
    obtain ⟨hkind, hkinds'⟩ := List.nodup_cons.1 hkinds
    obtain ⟨htended, hfiled'⟩ := tended_putInPlace hfiled hteam kind
    have hleaves := leaves_putInPlace hfiled hteam kind
    rw [Ghost.run_putAllInPlace_cons] at hlast ⊢
    generalize (ghost.putInPlace team kind).run environment lone = step at *
    obtain ⟨result, happenings, after⟩ := step
    cases result with
    | error failure => cases hlast
    | ok outcome =>
      have hrest := ih hfiled' hkinds' (readiness.record kind outcome) hlast
      have htended' := (tended_putAllInPlace hfiled' hteam kinds (readiness.record kind outcome)).1
      intro other hother
      rcases List.mem_cons.1 hother with rfl | hother
      · -- The later steps see to other kinds.
        have hchild := htended'.children_of_kind hkind (other.childName team)
        exact hchild ▸ hleaves outcome rfl
      · have hsingle : other ∉ [kind] := fun hmem ↦ hkind (List.mem_singleton.1 hmem ▸ hother)
        have hchild := htended.children_of_kind hsingle (other.childName team)
        exact hchild ▸ hrest other hother

/-- Without faults a step succeeds. -/
theorem exists_outcome_putInPlace {owner : OwnerReference} (hfiled : lone.view.Filed team)
    (hteam : ghost.team = team) (hfaults : ∀ name, lone.view.faults name = none)
    (howner : ghost.ownerReference? = some owner) (kind : ChildKind) :
    ∃ outcome, ((ghost.putInPlace team kind).run environment lone).result = .ok outcome := by
  have hspec := putInPlace_spec hfiled hteam kind
  obtain ⟨due, hdecision⟩ := TeamView.decision_of_no_faults hfaults howner team kind
  cases due with
  | none =>
    simp only [hdecision] at hspec
    exact ⟨_, hspec.1⟩
  | some write =>
    simp only [hdecision] at hspec
    exact ⟨_, hspec.1⟩

/-- Without faults all steps succeed. -/
theorem exists_readiness_putAllInPlace {owner : OwnerReference} (hfiled : lone.view.Filed team)
    (hteam : ghost.team = team) (hfaults : ∀ name, lone.view.faults name = none)
    (howner : ghost.ownerReference? = some owner) (kinds : List ChildKind)
    (readiness : Readiness) :
    ∃ last,
      ((ghost.putAllInPlace team kinds readiness).run environment lone).result = .ok last := by
  induction kinds generalizing lone readiness with
  | nil => exact ⟨readiness, rfl⟩
  | cons kind kinds ih =>
    obtain ⟨htended, hfiled'⟩ := tended_putInPlace hfiled hteam kind
    obtain ⟨outcome, hresult⟩ := exists_outcome_putInPlace hfiled hteam hfaults howner kind
    rw [Ghost.run_putAllInPlace_cons]
    simp only [hresult]
    exact ih hfiled' (fun name ↦ htended.faults ▸ hfaults name) (readiness.record kind outcome)

/-- A round that succeeds leaves each child of its blog as it is to be left. -/
theorem leaves_reconcile {key : Key} (hfiled : lone.view.Filed key.namespaceName)
    (hghost : lone.view.ghosts key.name = some ghost) (now : Instant)
    (hresult : ((reconcile key now).run environment lone).result = .ok ()) (kind : ChildKind) :
    ghost.Leaves kind (lone.view.children kind (kind.childName key.namespaceName))
      (((reconcile key now).run environment lone).state.view.children kind
        (kind.childName key.namespaceName)) := by
  have hteam := hfiled.team_eq hghost
  have hname := hfiled.name_eq hghost
  rw [run_reconcile] at hresult ⊢
  cases hfault : lone.view.faults .readGhost with
  | some message =>
    rw [lone.answer_of_fault (.readGhost key) hfault] at hresult
    cases hresult
  | none =>
    rw [lone.answer_readGhost key hfault, hghost] at hresult ⊢
    dsimp only at hresult ⊢
    have hfiled' : (lone.later lone.view).view.Filed key.namespaceName := hfiled
    obtain ⟨hround, -, -, hstate⟩ :=
      reconcileGhost_spec environment key now ghost (lone.later lone.view)
    have htended := (tended_putAllInPlace hfiled' hteam ChildKind.all {}).1
    have hleaves := leaves_putAllInPlace hfiled' hteam ChildKind.nodup_all {}
    rw [Run.result_after, hround] at hresult
    rw [Run.state_after, hstate]
    generalize (ghost.putAllInPlace key.namespaceName ChildKind.all {}).run environment
      (lone.later lone.view) = steps at *
    obtain ⟨result, happenings, after⟩ := steps
    cases result with
    | error setback => cases hresult
    | ok last =>
      have hghost' : after.view.ghosts key.name = some ghost := by
        rw [htended.ghosts]
        exact hghost
      have hchildren := (offers_recordStatus hghost' hname sameContent_readyCondition now).2.1
      exact congrFun (congrFun hchildren kind) _ ▸ hleaves last rfl kind kind.mem_all

end LoneTeam

/-- What becomes of a blog when it is reported to be ready: it is kept as it is if that is on record
already, and else it gets a new version, and a status with the new condition. -/
inductive Ghost.Reported (ghost : Ghost) (now : Instant) : Ghost → Prop
  | kept {old : Condition}
      (hfound : Condition.find? ghost.statusOrEmpty.conditions Condition.ghostReady = some old)
      (hsame : old.sameContent (readyCondition now) = true) : Reported ghost now ghost
  | written (version : UInt64)
      (hnew : ∀ old,
        Condition.find? ghost.statusOrEmpty.conditions Condition.ghostReady = some old →
          old.sameContent (readyCondition now) = false) :
      Reported ghost now (ghost.withStatus version (ghost.statusWith (readyCondition now)))

namespace LoneTeam

variable {ghost : Ghost} {owner : OwnerReference} {lone : LoneTeam}

/-- Without faults the report that a blog is ready succeeds. -/
theorem reported_recordStatus {name : String} (hghost : lone.view.ghosts name = some ghost)
    (hname : (Key.ofMetadata ghost.metadata).name = name)
    (hfaults : ∀ name, lone.view.faults name = none) (now : Instant) :
    let run := (ghost.recordStatus (ghost.statusWith (readyCondition now))).run environment lone
    run.result = .ok () ∧
      ∃ left, ghost.Reported now left ∧ run.state.view = lone.view.withGhost name left := by
  have hiff := Condition.sameIgnoringTime_upsert_iff (readyCondition now)
    ghost.statusOrEmpty.conditions
  dsimp only
  rw [run_recordStatus hghost hname, hfaults]
  split
  · rename_i hsame
    obtain ⟨old, hfound, hold⟩ := hiff.1 hsame
    exact ⟨rfl, ghost, .kept hfound hold, (TeamView.withGhost_self hghost).symm⟩
  · rename_i hdiffers
    refine ⟨rfl, _, .written (lone.versions 0) fun old hfound ↦ ?_, rfl⟩
    exact Bool.eq_false_iff.2 fun hold ↦ hdiffers (hiff.2 ⟨old, hfound, hold⟩)

/-- What one round brings about when no call is made to fail. -/
theorem reconcile_of_no_faults (lone : LoneTeam) {key : Key}
    (hfiled : lone.view.Filed key.namespaceName)
    (hfaults : ∀ name, lone.view.faults name = none)
    (hghost : lone.view.ghosts key.name = some ghost)
    (howner : ghost.ownerReference? = some owner) (now : Instant) :
    let run := (reconcile key now).run environment lone
    run.result = .ok () ∧
      (∃ left, ghost.Reported now left ∧
        run.state.view.ghosts = (lone.view.withGhost key.name left).ghosts) ∧
      (∀ kind : ChildKind,
        ghost.Leaves kind (lone.view.children kind (kind.childName key.namespaceName))
          (run.state.view.children kind (kind.childName key.namespaceName))) ∧
      ∀ (kind : ChildKind) (name : String), name ≠ kind.childName key.namespaceName →
        run.state.view.children kind name = lone.view.children kind name := by
  have hteam := hfiled.team_eq hghost
  have hname := hfiled.name_eq hghost
  rw [run_reconcile, lone.answer_readGhost key (hfaults _), hghost]
  dsimp only
  have hfiled' : (lone.later lone.view).view.Filed key.namespaceName := hfiled
  obtain ⟨hresult, -, -, hstate⟩ :=
    reconcileGhost_spec environment key now ghost (lone.later lone.view)
  obtain ⟨last, hlast⟩ :=
    exists_readiness_putAllInPlace hfiled' hteam hfaults howner ChildKind.all {}
  have hleaves := leaves_putAllInPlace hfiled' hteam ChildKind.nodup_all {} last hlast
  have htended := (tended_putAllInPlace hfiled' hteam ChildKind.all {}).1
  rw [hlast] at hresult hstate
  rw [Run.result_after, Run.state_after]
  generalize (ghost.putAllInPlace key.namespaceName ChildKind.all {}).run environment
    (lone.later lone.view) = steps at *
  have hghost' : steps.state.view.ghosts key.name = some ghost := by
    rw [htended.ghosts]
    exact hghost
  obtain ⟨hreply, left, hleft, hwritten⟩ := reported_recordStatus hghost' hname
    (fun name ↦ htended.faults ▸ hfaults name) now
  have hview := (congrArg LoneTeam.view hstate).trans hwritten
  rw [hview]
  refine ⟨hresult.trans hreply, ⟨left, hleft, ?_⟩, fun kind ↦ hleaves kind kind.mem_all,
    fun kind name hname' ↦ htended.children fun hboth ↦ hname' hboth.2⟩
  unfold TeamView.withGhost
  rw [htended.ghosts]
  rfl

end LoneTeam

/-! ### For a cluster -/

/-- The child of a kind that a team has in a cluster. -/
def Memory.child? (memory : Memory) (team : String) (kind : ChildKind) : Option kind.Object :=
  (memory.children.shelf kind).find? ⟨team, kind.childName team⟩

theorem Memory.status_of_find {memory : Memory} {key : Key} {ghost : Ghost}
    (hghost : memory.ghosts.find? key = some ghost) : memory.status key = ghost.statusOrEmpty := by
  unfold status
  rw [hghost]
  rfl

/-- What a round for a blog brings about. A child that is created is in the desired form, with one
owner and a version. -/
structure Converged (key : Key) (now : Instant) (ghost : Ghost) (owner : OwnerReference)
    (before after : Memory) : Prop where
  /-- A claim or a service that was there is as it was. -/
  kept : ∀ kind : ChildKind, kind = .volumeClaim ∨ kind = .service →
    ∀ live, before.child? key.namespaceName kind = some live →
      after.child? key.namespaceName kind = some live
  /-- A child that was not there has been created; an ingress, if it is enabled. -/
  created : ∀ kind : ChildKind, (kind = .ingress → ghost.spec.enableIngress = true) →
    before.child? key.namespaceName kind = none →
      ∃ version, after.child? key.namespaceName kind =
        some (kind.stamped version (ghost.childOf owner kind))
  /-- A deployment that runs what the blog asks for is as it was. -/
  deployment_kept : ∀ live : Deployment,
    before.child? key.namespaceName .deployment = some live →
      live.effectiveReplicas = ghost.spec.replicas →
      live.firstImage? = some (imageName ghost.spec.imageTag) →
        after.child? key.namespaceName .deployment = some live
  /-- A deployment that runs something else has got the desired specification and a version, and is
  otherwise as it was. -/
  deployment_replaced : ∀ live : Deployment,
    before.child? key.namespaceName .deployment = some live →
      (live.effectiveReplicas ≠ ghost.spec.replicas ∨
        live.firstImage? ≠ some (imageName ghost.spec.imageTag)) →
        ∃ version, after.child? key.namespaceName .deployment =
          some { live with
            metadata := Memory.stamp version live.metadata
            spec := ghost.deployment.spec }
  /-- An ingress that was there is as it was if it is enabled. -/
  ingress_kept : ghost.spec.enableIngress = true →
    ∀ live : Ingress, before.child? key.namespaceName .ingress = some live →
      after.child? key.namespaceName .ingress = some live
  /-- There is no ingress if it is not enabled. -/
  ingress_absent : ghost.spec.enableIngress = false →
    after.child? key.namespaceName .ingress = none
  /-- The blog is there, and nothing about it has changed but its status and its version. -/
  reported : ∃ left, after.ghosts.find? key = some left ∧ ghost.Reported now left
  /-- The blog is on record as ready. -/
  ready : ∃ condition, Condition.find? (after.status key).conditions Condition.ghostReady =
    some condition ∧ condition.status = .holds
  /-- The conditions of other types are as they were, in order. -/
  conditions_elsewhere :
    (after.status key).conditions.filter (fun condition ↦ condition.type ≠ Condition.ghostReady) =
      (before.status key).conditions.filter fun condition ↦
        condition.type ≠ Condition.ghostReady
  /-- The other blogs are as they were. -/
  ghosts_elsewhere : ∀ other, other ≠ key → after.ghosts.find? other = before.ghosts.find? other
  /-- All other objects are as they were. -/
  children_elsewhere : ∀ (kind : ChildKind) (other : Key),
    other ≠ ⟨key.namespaceName, kind.childName key.namespaceName⟩ →
      (after.children.shelf kind).find? other = (before.children.shelf kind).find? other

namespace Ghost.Leaves

variable {ghost : Ghost}

/-- A claim or a service that is found is left as it is. -/
theorem eq_of_immutable {kind : ChildKind} (hkind : kind = .volumeClaim ∨ kind = .service)
    {live : kind.Object} {left : Option kind.Object}
    (hleaves : ghost.Leaves kind (some live) left) : left = some live := by
  rcases hkind with rfl | rfl
  · exact hleaves.eq_of_atRest (.volumeClaim live)
  · exact hleaves.eq_of_atRest (.service live)

/-- A child that is not found is created, unless it is an ingress that is not enabled. -/
theorem eq_of_none {kind : ChildKind} (hwanted : kind = .ingress → ghost.spec.enableIngress = true)
    {owner : OwnerReference} (howner : ghost.ownerReference? = some owner)
    {left : Option kind.Object} (hleaves : ghost.Leaves kind none left) :
    ∃ version, left = some (kind.stamped version (ghost.childOf owner kind)) := by
  cases hleaves with
  | kept hrest =>
    cases hrest with
    | noIngress hunwanted =>
      rw [hwanted rfl] at hunwanted
      cases hunwanted
  | created version howner' hwanted' =>
    rw [howner] at howner'
    cases howner'
    exact ⟨version, rfl⟩

theorem eq_of_serves {live : Deployment} (hreplicas : live.effectiveReplicas = ghost.spec.replicas)
    (himage : live.firstImage? = some (imageName ghost.spec.imageTag)) {left : Option Deployment}
    (hleaves : ghost.Leaves .deployment (some live) left) : left = some live :=
  hleaves.eq_of_atRest (.deployment hreplicas himage)

theorem eq_of_drifted {live : Deployment}
    (hdrifted : live.effectiveReplicas ≠ ghost.spec.replicas ∨
      live.firstImage? ≠ some (imageName ghost.spec.imageTag))
    {left : Option Deployment} (hleaves : ghost.Leaves .deployment (some live) left) :
    ∃ version, left = some { live with
      metadata := Memory.stamp version live.metadata
      spec := ghost.deployment.spec } := by
  cases hleaves with
  | kept hrest =>
    cases hrest with
    | deployment hreplicas himage =>
      exact absurd himage (hdrifted.resolve_left (not_not_intro hreplicas))
  | replaced version hdrifted' => exact ⟨version, rfl⟩

theorem eq_of_enabled (henabled : ghost.spec.enableIngress = true) {live : Ingress}
    {left : Option Ingress} (hleaves : ghost.Leaves .ingress (some live) left) :
    left = some live :=
  hleaves.eq_of_atRest (.ingress live henabled)

theorem eq_none_of_disabled (hdisabled : ghost.spec.enableIngress = false)
    {found left : Option Ingress} (hleaves : ghost.Leaves .ingress found left) : left = none := by
  have hrest := hleaves.atRest
  cases hrest with
  | ingress live hwanted =>
    rw [hdisabled] at hwanted
    cases hwanted
  | noIngress hunwanted => rfl

end Ghost.Leaves

namespace Ghost.Reported

variable {ghost left : Ghost} {now : Instant}

/-- A blog that has been reported to be ready is on record as ready. -/
theorem ready (hreported : ghost.Reported now left) :
    ∃ condition, Condition.find? left.statusOrEmpty.conditions Condition.ghostReady =
      some condition ∧ condition.status = .holds := by
  cases hreported with
  | @kept old hfound hsame => exact ⟨old, hfound, (Condition.sameContent_iff.1 hsame).2.1⟩
  | written version hnew =>
    exact ⟨readyCondition now, Condition.find?_upsert_self (readyCondition now) _, rfl⟩

/-- The report touches no condition of another type. -/
theorem filter_conditions (hreported : ghost.Reported now left) :
    left.statusOrEmpty.conditions.filter
        (fun condition ↦ condition.type ≠ Condition.ghostReady) =
      ghost.statusOrEmpty.conditions.filter fun condition ↦
        condition.type ≠ Condition.ghostReady := by
  cases hreported with
  | kept hfound hsame => rfl
  | written version hnew => exact Condition.filter_upsert (readyCondition now) _

end Ghost.Reported

/-- What is left of the children and of the blog, with nothing else changed, is what a round is to
bring about. -/
theorem Converged.of_leaves {key : Key} {now : Instant} {ghost left : Ghost}
    {owner : OwnerReference} {before after : Memory} (howner : ghost.ownerReference? = some owner)
    (hghost : before.ghosts.find? key = some ghost)
    (hchild : ∀ kind : ChildKind, ghost.Leaves kind (before.child? key.namespaceName kind)
      (after.child? key.namespaceName kind))
    (hleft : after.ghosts.find? key = some left) (hreported : ghost.Reported now left)
    (hghosts : ∀ other, other ≠ key → after.ghosts.find? other = before.ghosts.find? other)
    (hchildren : ∀ (kind : ChildKind) (other : Key),
      other ≠ ⟨key.namespaceName, kind.childName key.namespaceName⟩ →
        (after.children.shelf kind).find? other = (before.children.shelf kind).find? other) :
    Converged key now ghost owner before after where
  kept kind hkind live hlive := by
    have hleaves := hchild kind
    rw [hlive] at hleaves
    exact hleaves.eq_of_immutable hkind
  created kind hwanted hnone := by
    have hleaves := hchild kind
    rw [hnone] at hleaves
    exact hleaves.eq_of_none hwanted howner
  deployment_kept live hlive hreplicas himage := by
    have hleaves := hchild .deployment
    rw [hlive] at hleaves
    exact hleaves.eq_of_serves hreplicas himage
  deployment_replaced live hlive hdrifted := by
    have hleaves := hchild .deployment
    rw [hlive] at hleaves
    exact hleaves.eq_of_drifted hdrifted
  ingress_kept henabled live hlive := by
    have hleaves := hchild .ingress
    rw [hlive] at hleaves
    exact hleaves.eq_of_enabled henabled
  ingress_absent hdisabled := (hchild .ingress).eq_none_of_disabled hdisabled
  reported := ⟨left, hleft, hreported⟩
  ready := by
    rw [Memory.status_of_find hleft]
    exact hreported.ready
  conditions_elsewhere := by
    rw [Memory.status_of_find hleft, Memory.status_of_find hghost]
    exact hreported.filter_conditions
  ghosts_elsewhere := hghosts
  children_elsewhere := hchildren

/-- What one round that succeeds in an orderly cluster leaves of the children of its blog. -/
theorem Memory.Orderly.leaves_reconcile {memory : Memory} (horderly : memory.Orderly) {key : Key}
    {ghost : Ghost} (hghost : memory.ghosts.find? key = some ghost) (now : Instant)
    (hresult : ((reconcile key now).run Memory.environment memory).result = .ok ())
    (kind : ChildKind) :
    ghost.Leaves kind (memory.child? key.namespaceName kind)
      (((reconcile key now).run Memory.environment memory).state.child? key.namespaceName
        kind) := by
  obtain ⟨-, -, earlier, hlone⟩ :=
    Pass.run_memory horderly (confined_reconcile key now) fun _ ↦ 0
  have hfiled : (LoneTeam.mk (memory.view key.namespaceName) earlier).view.Filed
      key.namespaceName := horderly.filed key.namespaceName
  have hleaves := LoneTeam.leaves_reconcile hfiled hghost now
  rw [hlone] at hleaves
  exact hleaves hresult kind

/-- What one round in an orderly cluster brings about for its team when no call is made to fail. -/
theorem Memory.Orderly.reconcile_of_no_faults {memory : Memory} (horderly : memory.Orderly)
    (hfaults : ∀ name, memory.faults name = none) {key : Key} {ghost : Ghost}
    (hghost : memory.ghosts.find? key = some ghost) {owner : OwnerReference}
    (howner : ghost.ownerReference? = some owner) (now : Instant) :
    let run := (reconcile key now).run Memory.environment memory
    let before := memory.view key.namespaceName
    let after := run.state.view key.namespaceName
    run.result = .ok () ∧
      (∃ left, ghost.Reported now left ∧ after.ghosts = (before.withGhost key.name left).ghosts) ∧
      (∀ kind : ChildKind,
        ghost.Leaves kind (before.children kind (kind.childName key.namespaceName))
          (after.children kind (kind.childName key.namespaceName))) ∧
      ∀ (kind : ChildKind) (name : String), name ≠ kind.childName key.namespaceName →
        after.children kind name = before.children kind name := by
  intro run before after
  -- The round goes as it would if its team were on its own.
  obtain ⟨-, -, earlier, hlone⟩ :=
    Pass.run_memory horderly (confined_reconcile key now) fun _ ↦ 0
  have hround := LoneTeam.reconcile_of_no_faults ⟨before, earlier⟩
    (horderly.filed key.namespaceName) hfaults hghost howner now
  rw [hlone] at hround
  exact hround

/-- A round in an orderly cluster in which no call is made to fail. -/
theorem Memory.Orderly.converged_reconcile {memory : Memory} (horderly : memory.Orderly)
    (hfaults : ∀ name, memory.faults name = none) {key : Key} {ghost : Ghost}
    (hghost : memory.ghosts.find? key = some ghost) {owner : OwnerReference}
    (howner : ghost.ownerReference? = some owner) (now : Instant) :
    let run := (reconcile key now).run Memory.environment memory
    run.result = .ok () ∧ Converged key now ghost owner memory run.state := by
  intro run
  obtain ⟨hresult, ⟨left, hreported, hghosts⟩, hleaves, hchildren⟩ :=
    horderly.reconcile_of_no_faults hfaults hghost howner now
  have hothers := (Pass.run_memory horderly (confined_reconcile key now) fun _ ↦ 0).2.1
  have hleft : run.state.ghosts.find? key = some left :=
    (congrFun hghosts key.name).trans (TeamView.ghosts_withGhost_self _ key.name left)
  refine ⟨hresult, .of_leaves howner hghost hleaves hleft hreported ?_ ?_⟩
  · rintro ⟨space, place⟩ hother
    by_cases hspace : space = key.namespaceName
    · subst hspace
      have hplace : place ≠ key.name := fun hname ↦ hother (Key.mk_eq_iff.2 ⟨rfl, hname⟩)
      exact (congrFun hghosts place).trans (TeamView.ghosts_withGhost_of_ne _ hplace left)
    · exact congrFun (congrArg TeamView.ghosts (hothers space hspace)) place
  · rintro kind ⟨space, place⟩ hother
    by_cases hspace : space = key.namespaceName
    · subst hspace
      have hplace : place ≠ kind.childName key.namespaceName := fun hname ↦
        hother (Key.mk_eq_iff.2 ⟨rfl, hname⟩)
      exact hchildren kind place hplace
    · exact congrFun (congrFun (congrArg TeamView.children (hothers space hspace)) kind) place

/-- When no call is made to fail, one undisturbed round for a blog that has a name succeeds and
brings about what the blog asks for, in any cluster that can come about. -/
theorem reconcile_converges {memory : Memory} (hreachable : memory.Reachable)
    (hfaults : ∀ name, memory.faults name = none) {key : Key} {ghost : Ghost}
    (hghost : memory.ghosts.find? key = some ghost) {name : String}
    (hname : ghost.metadata.name = some name) (now : Instant) :
    let run := (reconcile key now).run Memory.environment memory
    ∃ uid, ghost.metadata.uid = some uid ∧ run.result = .ok () ∧
      Converged key now ghost
        { apiVersion := Ghost.apiVersion, kind := Ghost.kind, name, uid, controller := some true }
        memory run.state := by
  intro run
  have horderly := hreachable.orderly
  obtain ⟨uid, huid⟩ := Option.ne_none_iff_exists'.1 (horderly.ghosts_identified hghost)
  have howner : ghost.ownerReference? = some {
      apiVersion := Ghost.apiVersion, kind := Ghost.kind, name, uid, controller := some true } := by
    unfold Ghost.ownerReference?
    rw [hname, huid]
    rfl
  exact ⟨uid, huid, horderly.converged_reconcile hfaults hghost howner now⟩

/-- The blog has been given another image and no ingress since its deployment and its ingress were
made. Its claim was made by hand, there is no service, and its status says that the claim was
missing once and that the blog has been ready after that. -/
theorem reconcile_converges_marketing :
    let key : Key := ⟨"marketing", "blog"⟩
    let old : Ghost := {
      metadata := { name := some "blog", namespaceName := some "marketing" }
      spec := ⟨"4", 1, true⟩
      status := some { conditions := [
        .stamped "PVCNotReady" .fails "PVCNotReady" "no room" .epoch,
        .stamped "GhostReady" .holds "AllSubresourcesReady" "ready long ago" .epoch] } }
    let claim : VolumeClaim := { metadata := childMetadata .volumeClaim "marketing" }
    let memory := [
      .apply old, .call (.change (.create .volumeClaim claim)),
      .call (.change (.create .deployment old.deployment)),
      .call (.change (.create .ingress old.ingress)),
      .edit key fun _ ↦ ⟨"5", 2, false⟩].foldl Memory.perform {}
    let run := (reconcile key .epoch).run Memory.environment memory
    run.exchanges.map (fun exchange ↦ exchange.request.name) = [
        .readGhost, .find .volumeClaim, .find .deployment, .replace, .find .service,
        .create .service, .find .ingress, .remove, .writeStatus] ∧
      (run.state.status key).conditions.map (fun condition ↦ (condition.type, condition.status)) =
        [("PVCNotReady", .fails), ("GhostReady", .holds)] ∧
      ∃ ghost owner, memory.ghosts.find? key = some ghost ∧ run.result = .ok () ∧
        Converged key .epoch ghost owner memory run.state := by
  intro key old claim memory run
  have hreachable : memory.Reachable := Memory.Reachable.empty.foldl _
  have hcalls : run.exchanges.map (fun exchange ↦ exchange.request.name) = [
      .readGhost, .find .volumeClaim, .find .deployment, .replace, .find .service,
      .create .service, .find .ingress, .remove, .writeStatus] := by
    decide +kernel
  have hconditions : (run.state.status key).conditions.map
      (fun condition ↦ (condition.type, condition.status)) =
        [("PVCNotReady", .fails), ("GhostReady", .holds)] := by
    decide +kernel
  obtain ⟨ghost, hghost, hname⟩ : ∃ ghost, memory.ghosts.find? key = some ghost ∧
      ghost.metadata.name = some "blog" := by
    dsimp only [memory, claim, old, key]
    exact ⟨_, rfl, rfl⟩
  have hfaults (name : CallName) : memory.faults name = none := rfl
  obtain ⟨uid, -, hresult, hconverged⟩ :=
    reconcile_converges hreachable hfaults hghost hname .epoch
  exact ⟨hcalls, hconditions, ghost, _, hghost, hresult, hconverged⟩

end BlogOperator
