import BlogOperator.Proofs.LoneTeam
import BlogOperator.Proofs.Recorded

/-!
# Teams at rest

A team is at rest when a round for it changes nothing. `TeamView.Settles` says so of the steps for
the children: each has nothing to do, up to the first that fails, if one does.
`TeamView.Offers` says it of the status: it is on record, or offering it fails. `TeamView.Rests`
puts the two together, with the result that the round ends with.

A round leaves its team at rest, with the result that it has itself (`LoneTeam.rests_reconcile`). A
round for a team at rest changes nothing, announces nothing and has the result that the team rests
with; if that is a success, the round makes no writing call (`LoneTeam.reconcile_of_rests`).
-/

set_option autoImplicit false

namespace BlogOperator

open BlogOperator.Kubernetes BlogOperator.Time

/-! ### What steps leave alone -/

/-- Views that differ at most in the children of some kinds. -/
structure TeamView.Tended (team : String) (kinds : List ChildKind) (before after : TeamView) :
    Prop where
  faults : after.faults = before.faults
  ghosts : after.ghosts = before.ghosts
  children : ∀ {kind : ChildKind} {name : String}, ¬(kind ∈ kinds ∧ name = kind.childName team) →
    after.children kind name = before.children kind name

namespace TeamView

variable {ghost : Ghost} {team : String} {kind : ChildKind} {kinds : List ChildKind}
  {before after : TeamView}

theorem Tended.refl (team : String) (kinds : List ChildKind) (view : TeamView) :
    view.Tended team kinds view :=
  ⟨rfl, rfl, fun _ ↦ rfl⟩

theorem Tended.cons {between : TeamView} (hfirst : before.Tended team [kind] between)
    (hrest : between.Tended team kinds after) : before.Tended team (kind :: kinds) after where
  faults := hrest.faults.trans hfirst.faults
  ghosts := hrest.ghosts.trans hfirst.ghosts
  children {other name} hother := by
    have hkinds : ¬(other ∈ kinds ∧ name = other.childName team) :=
      fun hboth ↦ hother ⟨List.mem_cons_of_mem kind hboth.1, hboth.2⟩
    have hkind : ¬(other ∈ [kind] ∧ name = other.childName team) := fun hboth ↦
      hother ⟨List.mem_singleton.1 hboth.1 ▸ List.mem_cons_self, hboth.2⟩
    rw [hrest.children hkinds, hfirst.children hkind]

theorem Tended.children_of_kind (htended : before.Tended team kinds after) (hkind : kind ∉ kinds)
    (name : String) : after.children kind name = before.children kind name :=
  htended.children fun hboth ↦ hkind hboth.1

/-- What is decided about a kind stays decided while other kinds are seen to. -/
theorem Tended.decision (htended : before.Tended team kinds after) (hkind : kind ∉ kinds) :
    after.decision ghost team kind = before.decision ghost team kind :=
  decision_congr htended.faults (htended.children_of_kind hkind _)

theorem tended_written {write : Write} (hfiled : before.Filed team) (hteam : ghost.team = team)
    (hwants : ghost.Wants team kind (before.children kind (kind.childName team)) write)
    (version : UInt64) : before.Tended team [kind] (before.written version write) where
  faults := rfl
  ghosts := rfl
  children {other name} hother := by
    have hkey := hwants.key_eq hteam fun object ↦ hfiled.children
    refine children_written_of_ne _ _ _ ?_
    rw [hwants.kind_eq, hkey]
    by_contra hboth
    rw [not_or, not_not, not_not] at hboth
    obtain ⟨rfl, rfl⟩ := hboth
    exact hother ⟨List.mem_singleton_self other, rfl⟩

end TeamView

namespace LoneTeam

variable {ghost : Ghost} {team : String} {lone : LoneTeam}

theorem tended_putInPlace (hfiled : lone.view.Filed team) (hteam : ghost.team = team)
    (kind : ChildKind) :
    let run := (ghost.putInPlace team kind).run environment lone
    lone.view.Tended team [kind] run.state.view ∧ run.state.view.Filed team := by
  dsimp only
  have hspec := putInPlace_spec hfiled hteam kind
  rcases hdecision : lone.view.decision ghost team kind with failure | _ | write
  · simp only [hdecision] at hspec
    rw [hspec.2.2]
    exact ⟨.refl team [kind] lone.view, hfiled⟩
  · simp only [hdecision] at hspec
    rw [hspec.2.2.1]
    exact ⟨.refl team [kind] lone.view, hfiled⟩
  · simp only [hdecision] at hspec
    obtain ⟨-, version, hview⟩ := hspec
    have hwants := TeamView.wants_of_decision hdecision
    rw [hview]
    exact ⟨TeamView.tended_written hfiled hteam hwants version,
      hfiled.written hteam hwants version⟩

theorem tended_putAllInPlace (hfiled : lone.view.Filed team) (hteam : ghost.team = team)
    (kinds : List ChildKind) (readiness : Readiness) :
    let run := (ghost.putAllInPlace team kinds readiness).run environment lone
    lone.view.Tended team kinds run.state.view ∧ run.state.view.Filed team := by
  induction kinds generalizing lone readiness with
  | nil => exact ⟨.refl team [] lone.view, hfiled⟩
  | cons kind kinds ih =>
    have hstep := tended_putInPlace hfiled hteam kind
    rw [Ghost.run_putAllInPlace_cons]
    generalize (ghost.putInPlace team kind).run environment lone = step at hstep
    obtain ⟨result, happenings, after⟩ := step
    obtain ⟨htended, hfiled'⟩ := hstep
    cases result with
    | error failure => exact ⟨htended.cons (.refl team kinds after.view), hfiled'⟩
    | ok outcome =>
      obtain ⟨hrest, hfiled''⟩ := ih hfiled' (readiness.record kind outcome)
      exact ⟨htended.cons hrest, hfiled''⟩

end LoneTeam

/-! ### Steps with nothing to do -/

/-- The steps for some kinds have nothing to do, up to the first that fails. -/
inductive TeamView.Settles (view : TeamView) (ghost : Ghost) (team : String) :
    List ChildKind → Except Setback Unit → Prop
  | finished : Settles view ghost team [] (.ok ())
  | halted {kind : ChildKind} {kinds : List ChildKind} {failure : Failure}
      (hdecision : view.decision ghost team kind = .error failure) :
      Settles view ghost team (kind :: kinds) (.error ⟨kind, failure⟩)
  | passed {kind : ChildKind} {kinds : List ChildKind} {verdict : Except Setback Unit}
      (hdecision : view.decision ghost team kind = .ok none)
      (hrest : Settles view ghost team kinds verdict) :
      Settles view ghost team (kind :: kinds) verdict

/-- Whether steps have anything to do depends on what is decided about the children alone. -/
theorem TeamView.Settles.congr {before after : TeamView} {ghost other : Ghost} {team : String}
    {kinds : List ChildKind} {verdict : Except Setback Unit}
    (hsettles : before.Settles ghost team kinds verdict)
    (hsame : ∀ kind, after.decision other team kind = before.decision ghost team kind) :
    after.Settles other team kinds verdict := by
  induction hsettles with
  | finished => exact .finished
  | halted hdecision => exact .halted ((hsame _).trans hdecision)
  | passed hdecision hrest ih => exact .passed ((hsame _).trans hdecision) ih

namespace LoneTeam

variable {ghost : Ghost} {team : String} {lone : LoneTeam}

/-- A step that succeeds leaves nothing to do for itself. -/
theorem decision_putInPlace (hfiled : lone.view.Filed team) (hteam : ghost.team = team)
    (kind : ChildKind) (outcome : Outcome)
    (hresult : ((ghost.putInPlace team kind).run environment lone).result = .ok outcome) :
    ((ghost.putInPlace team kind).run environment lone).state.view.decision ghost team kind =
      .ok none := by
  have hspec := putInPlace_spec hfiled hteam kind
  rcases hdecision : lone.view.decision ghost team kind with failure | _ | write
  · simp only [hdecision] at hspec
    rw [hspec.1] at hresult
    cases hresult
  · simp only [hdecision] at hspec
    rw [hspec.2.2.1, hdecision]
  · simp only [hdecision] at hspec
    obtain ⟨-, version, hview⟩ := hspec
    rw [hview]
    exact TeamView.decision_written hfiled hteam hdecision version

/-- A step that fails would fail so again. -/
theorem decision_putInPlace_of_error (hfiled : lone.view.Filed team) (hteam : ghost.team = team)
    (kind : ChildKind) (failure : Failure)
    (hresult : ((ghost.putInPlace team kind).run environment lone).result = .error failure) :
    ((ghost.putInPlace team kind).run environment lone).state.view.decision ghost team kind =
      .error failure := by
  have hspec := putInPlace_spec hfiled hteam kind
  rcases hdecision : lone.view.decision ghost team kind with reason | _ | write
  · simp only [hdecision] at hspec
    obtain ⟨hreason, -, hview⟩ := hspec
    rw [hreason] at hresult
    cases hresult
    rw [hview, hdecision]
  · simp only [hdecision] at hspec
    rw [hspec.1] at hresult
    cases hresult
  · simp only [hdecision] at hspec
    rw [hspec.1] at hresult
    cases hresult

/-- Steps one after another leave nothing to do for themselves, up to the first that fails. -/
theorem settles_putAllInPlace (hfiled : lone.view.Filed team) (hteam : ghost.team = team)
    {kinds : List ChildKind} (hkinds : kinds.Nodup) (readiness : Readiness) :
    let run := (ghost.putAllInPlace team kinds readiness).run environment lone
    run.state.view.Settles ghost team kinds (run.result.map fun _ ↦ ()) := by
  induction kinds generalizing lone readiness with
  | nil => exact .finished
  | cons kind kinds ih =>
    obtain ⟨hkind, hkinds'⟩ := List.nodup_cons.1 hkinds
    have hfiled' := (tended_putInPlace hfiled hteam kind).2
    have hpassed := decision_putInPlace hfiled hteam kind
    have hhalted := decision_putInPlace_of_error hfiled hteam kind
    rw [Ghost.run_putAllInPlace_cons]
    generalize (ghost.putInPlace team kind).run environment lone = step at *
    obtain ⟨result, happenings, after⟩ := step
    cases result with
    | error failure => exact .halted (hhalted failure rfl)
    | ok outcome =>
      -- Later steps see to other kinds, so that there still is nothing to do for this one.
      have htended := (tended_putAllInPlace hfiled' hteam kinds (readiness.record kind outcome)).1
      exact .passed ((htended.decision hkind).trans (hpassed outcome rfl))
        (ih hfiled' hkinds' (readiness.record kind outcome))

/-- Steps with nothing to do change nothing and announce nothing. If none fails, none writes. -/
theorem putAllInPlace_of_settles {view : TeamView} {kinds : List ChildKind}
    {verdict : Except Setback Unit} (hsettles : view.Settles ghost team kinds verdict)
    (hview : lone.view = view) (hfiled : view.Filed team) (hteam : ghost.team = team)
    (readiness : Readiness) :
    let run := (ghost.putAllInPlace team kinds readiness).run environment lone
    run.result.map (fun _ ↦ ()) = verdict ∧ run.state.view = view ∧ run.notices = [] ∧
      (verdict = .ok () → ∀ exchange ∈ run.exchanges, exchange.request.name.isWrite = false) := by
  induction hsettles generalizing lone readiness with
  | finished => exact ⟨rfl, hview, rfl, fun _ exchange hexchange ↦ by cases hexchange⟩
  | @halted kind kinds failure hdecision =>
    subst hview
    have hspec := putInPlace_spec hfiled hteam kind
    simp only [hdecision] at hspec
    obtain ⟨hresult, hnotices, hkept⟩ := hspec
    rw [Ghost.run_putAllInPlace_cons]
    simp only [hresult]
    exact ⟨rfl, hkept, hnotices, fun hverdict ↦ by cases hverdict⟩
  | @passed kind kinds verdict hdecision hrest ih =>
    subst hview
    have hspec := putInPlace_spec hfiled hteam kind
    simp only [hdecision] at hspec
    obtain ⟨hresult, hnotices, hkept, hquiet⟩ := hspec
    rw [Ghost.run_putAllInPlace_cons]
    simp only [hresult]
    obtain ⟨hresult', hkept', hnotices', hquiet'⟩ := ih hkept (readiness.record kind .unchanged)
    refine ⟨hresult', hkept', ?_, fun hverdict exchange hexchange ↦ ?_⟩
    · rw [Run.notices_after, hnotices', List.append_nil]
      exact hnotices
    · rw [Run.exchanges_after] at hexchange
      rcases List.mem_append.1 hexchange with hexchange | hexchange
      · exact hquiet exchange hexchange
      · exact hquiet' hverdict exchange hexchange

end LoneTeam

/-! ### A status with nothing to say -/

/-- The status has nothing to say about a condition: the condition is on record whenever it is
stamped, or it is not and cannot be put there. -/
inductive TeamView.Offers (view : TeamView) (ghost : Ghost) (condition : Instant → Condition) :
    Except Failure Unit → Prop
  | recorded
      (hrecorded : ∀ now, Condition.sameIgnoringTime ghost.statusOrEmpty.conditions
        (ghost.statusWith (condition now)).conditions = true) :
      Offers view ghost condition (.ok ())
  | refused {message : String} (hfault : view.faults .writeStatus = some message)
      (hnew : ∀ now, Condition.sameIgnoringTime ghost.statusOrEmpty.conditions
        (ghost.statusWith (condition now)).conditions = false) :
      Offers view ghost condition (.error (.api message))

/-- A blog as it may be stored after its status has been written. -/
def Ghost.Restamped (ghost other : Ghost) : Prop :=
  other = ghost ∨ ∃ version status, other = ghost.withStatus version status

/-- What is decided about the children does not depend on the status of the blog. -/
theorem TeamView.decision_restamped {ghost other : Ghost} (hrestamped : ghost.Restamped other)
    (view : TeamView) (team : String) (kind : ChildKind) :
    view.decision other team kind = view.decision ghost team kind := by
  rcases hrestamped with rfl | ⟨version, status, rfl⟩
  · rfl
  · have hdue (live : Option kind.Object) :
        (ghost.withStatus version status).due? team kind live = ghost.due? team kind live := by
      cases kind <;> cases live <;> rfl
    unfold decision
    rw [hdue]

namespace Ghost

variable {ghost other : Ghost} (hrestamped : ghost.Restamped other)

include hrestamped

theorem Restamped.ofMetadata_eq :
    Key.ofMetadata other.metadata = Key.ofMetadata ghost.metadata := by
  rcases hrestamped with rfl | ⟨version, status, rfl⟩
  · rfl
  · rfl

theorem Restamped.name_eq : other.metadata.name = ghost.metadata.name := by
  rcases hrestamped with rfl | ⟨version, status, rfl⟩
  · rfl
  · rfl

/-- A blog that has been given a status is given another one. -/
theorem Restamped.withStatus (version : UInt64) (status : GhostStatus) :
    ghost.Restamped (other.withStatus version status) := by
  rcases hrestamped with rfl | ⟨version', status', rfl⟩
  · exact .inr ⟨version, status, rfl⟩
  · exact .inr ⟨version, status, rfl⟩

/-- What is left of the children does not depend on the status of the blog. -/
theorem Leaves.of_restamped {kind : ChildKind} {found left : Option kind.Object}
    (hleaves : other.Leaves kind found left) : ghost.Leaves kind found left := by
  rcases hrestamped with rfl | ⟨version, status, rfl⟩
  · exact hleaves
  · cases hleaves with
    | kept hrest =>
      refine .kept ?_
      cases hrest with
      | volumeClaim live => exact .volumeClaim live
      | deployment hreplicas himage => exact .deployment hreplicas himage
      | service live => exact .service live
      | ingress live hwanted => exact .ingress live hwanted
      | noIngress hunwanted => exact .noIngress hunwanted
    | created version howner hwanted => exact .created version howner hwanted
    | replaced version hdrifted => exact .replaced version hdrifted
    | removed hunwanted => exact .removed hunwanted

end Ghost

namespace LoneTeam

variable {ghost : Ghost} {lone : LoneTeam} {name : String} {condition : Instant → Condition}

/-- The offer of a condition leaves the status with nothing more to say about it. -/
theorem offers_recordStatus (hghost : lone.view.ghosts name = some ghost)
    (hname : (Key.ofMetadata ghost.metadata).name = name)
    (htimeless : ∀ now later, (condition now).sameContent (condition later) = true)
    (now : Instant) :
    let run := (ghost.recordStatus (ghost.statusWith (condition now))).run environment lone
    run.state.view.faults = lone.view.faults ∧ run.state.view.children = lone.view.children ∧
      ∃ other, run.state.view.ghosts name = some other ∧ ghost.Restamped other ∧
        run.state.view.Offers other condition run.result := by
  have hanytime (later : Instant) :
      Condition.sameIgnoringTime ghost.statusOrEmpty.conditions
          (ghost.statusWith (condition later)).conditions =
        Condition.sameIgnoringTime ghost.statusOrEmpty.conditions
          (ghost.statusWith (condition now)).conditions :=
    Condition.sameIgnoringTime_upsert_congr (htimeless later now) (htimeless now later) _
  dsimp only
  rw [run_recordStatus hghost hname]
  by_cases hsame : Condition.sameIgnoringTime ghost.statusOrEmpty.conditions
    (ghost.statusWith (condition now)).conditions = true
  · rw [if_pos hsame]
    exact ⟨rfl, rfl, ghost, hghost, .inl rfl, .recorded fun later ↦ (hanytime later).trans hsame⟩
  · rw [if_neg hsame]
    cases hfault : lone.view.faults .writeStatus with
    | some message =>
      have hnew := Bool.eq_false_iff.2 hsame
      exact ⟨rfl, rfl, ghost, hghost, .inl rfl,
        .refused hfault fun later ↦ (hanytime later).trans hnew⟩
    | none =>
      refine ⟨rfl, rfl, _, TeamView.ghosts_withGhost_self _ name _, .inr ⟨_, _, rfl⟩,
        .recorded fun later ↦ ?_⟩
      exact Condition.sameIgnoringTime_upsert_upsert (htimeless now later) _

/-- A status with nothing to say is not written. -/
theorem recordStatus_of_offers {reply : Except Failure Unit}
    (hghost : lone.view.ghosts name = some ghost)
    (hname : (Key.ofMetadata ghost.metadata).name = name)
    (hoffers : lone.view.Offers ghost condition reply) (now : Instant) :
    let run := (ghost.recordStatus (ghost.statusWith (condition now))).run environment lone
    run.result = reply ∧ run.state.view = lone.view ∧ run.notices = [] ∧
      (reply = .ok () → run.exchanges = []) := by
  dsimp only
  rw [run_recordStatus hghost hname]
  cases hoffers with
  | recorded hrecorded =>
    rw [if_pos (hrecorded now)]
    exact ⟨rfl, rfl, rfl, fun _ ↦ rfl⟩
  | refused hfault hnew =>
    rw [if_neg (by rw [hnew now]; exact Bool.false_ne_true), hfault]
    exact ⟨rfl, rfl, rfl, fun hreply ↦ by cases hreply⟩

end LoneTeam

/-! ### Rounds with nothing to do -/

/-- A team for which a round has nothing to do, with the result that the round ends with. -/
inductive TeamView.Rests (key : Key) (view : TeamView) : Except Failure Unit → Prop
  /-- The blog cannot be read. -/
  | unread {message : String} (hfault : view.faults .readGhost = some message) :
      Rests key view (.error (.api message))
  /-- The blog is gone. -/
  | gone (hfault : view.faults .readGhost = none) (hghost : view.ghosts key.name = none) :
      Rests key view (.ok ())
  /-- The steps for the children have nothing to do, and the status has nothing to say about how
  they go. -/
  | read {ghost : Ghost} {verdict : Except Setback Unit} {reply : Except Failure Unit}
      (hfault : view.faults .readGhost = none) (hghost : view.ghosts key.name = some ghost)
      (hsettles : view.Settles ghost key.namespaceName ChildKind.all verdict)
      (hoffers : view.Offers ghost (reportOf verdict) reply) :
      Rests key view (resultOf verdict reply)

theorem ChildKind.nodup_all : ChildKind.all.Nodup := by decide

theorem sameContent_reportOf (verdict : Except Setback Unit) (now later : Instant) :
    (reportOf verdict now).sameContent (reportOf verdict later) = true := by
  cases verdict with
  | error setback => exact setback.sameContent_condition now later
  | ok => exact sameContent_readyCondition now later

namespace LoneTeam

variable {key : Key} (lone : LoneTeam)

/-- A round for a blog that has been read leaves its team at rest. -/
theorem rests_reconcileGhost {ghost : Ghost} (hfiled : lone.view.Filed key.namespaceName)
    (hfault : lone.view.faults .readGhost = none) (hghost : lone.view.ghosts key.name = some ghost)
    (now : Instant) :
    let run := (reconcileGhost key now ghost).run environment lone
    run.state.view.Rests key run.result := by
  have hteam := hfiled.team_eq hghost
  have hname := hfiled.name_eq hghost
  have htended := (tended_putAllInPlace hfiled hteam ChildKind.all {}).1
  have hsettles := settles_putAllInPlace hfiled hteam ChildKind.nodup_all {}
  obtain ⟨hresult, -, -, hstate⟩ := reconcileGhost_spec environment key now ghost lone
  dsimp only
  rw [hresult, hstate]
  generalize (ghost.putAllInPlace key.namespaceName ChildKind.all {}).run environment lone =
    steps at *
  have hghost' : steps.state.view.ghosts key.name = some ghost := by
    rw [htended.ghosts]
    exact hghost
  -- The status may be written now, but the children stay as the steps have left them.
  obtain ⟨hfaults, hchildren, other, hother, hrestamped, hoffers⟩ :=
    offers_recordStatus hghost' hname (sameContent_reportOf (steps.result.map fun _ ↦ ())) now
  refine .read ?_ hother (hsettles.congr fun kind ↦ ?_) hoffers
  · rw [hfaults, htended.faults]
    exact hfault
  · rw [TeamView.decision_restamped hrestamped]
    exact TeamView.decision_congr hfaults (congrFun (congrFun hchildren kind) _)

/-- A round leaves its team at rest, with the result that it has itself. -/
theorem rests_reconcile (hfiled : lone.view.Filed key.namespaceName) (now : Instant) :
    let run := (reconcile key now).run environment lone
    run.state.view.Rests key run.result := by
  rw [run_reconcile]
  cases hfault : lone.view.faults .readGhost with
  | some message =>
    rw [lone.answer_of_fault (.readGhost key) hfault]
    exact .unread hfault
  | none =>
    rw [lone.answer_readGhost key hfault]
    cases hghost : lone.view.ghosts key.name with
    | none => exact .gone hfault hghost
    | some ghost =>
      exact (lone.later lone.view).rests_reconcileGhost hfiled hfault hghost now

/-- A round for a blog that has been read does nothing for a team at rest. -/
theorem reconcileGhost_of_settles {ghost : Ghost} {verdict : Except Setback Unit}
    {reply : Except Failure Unit} (hfiled : lone.view.Filed key.namespaceName)
    (hghost : lone.view.ghosts key.name = some ghost)
    (hsettles : lone.view.Settles ghost key.namespaceName ChildKind.all verdict)
    (hoffers : lone.view.Offers ghost (reportOf verdict) reply) (now : Instant) :
    let run := (reconcileGhost key now ghost).run environment lone
    run.result = resultOf verdict reply ∧ run.state.view = lone.view ∧ run.notices = [] ∧
      (resultOf verdict reply = .ok () →
        ∀ exchange ∈ run.exchanges, exchange.request.name.isWrite = false) := by
  have hteam := hfiled.team_eq hghost
  have hname := hfiled.name_eq hghost
  obtain ⟨hverdict, hview, hnotices, hquiet⟩ :=
    putAllInPlace_of_settles hsettles rfl hfiled hteam {}
  obtain ⟨hresult, hexchanges, hnotices', hstate⟩ :=
    reconcileGhost_spec environment key now ghost lone
  dsimp only
  rw [hresult, hexchanges, hnotices', hstate, hverdict]
  generalize (ghost.putAllInPlace key.namespaceName ChildKind.all {}).run environment lone =
    steps at *
  have hghost' : steps.state.view.ghosts key.name = some ghost := by
    rw [hview]
    exact hghost
  obtain ⟨hreply, hkept, hsilent, hunsaid⟩ :=
    recordStatus_of_offers hghost' hname (hview ▸ hoffers) now
  refine ⟨by rw [hreply], hkept.trans hview, by rw [hnotices, hsilent]; rfl, fun hok ↦ ?_⟩
  cases verdict with
  | error setback => cases hok
  | ok =>
    rw [hunsaid hok, List.append_nil]
    exact hquiet rfl

/-- A round does nothing for a team at rest, and has the result that the team rests with. If that
is a success, the round makes no writing call. -/
theorem reconcile_of_rests {result : Except Failure Unit}
    (hfiled : lone.view.Filed key.namespaceName) (hrests : lone.view.Rests key result)
    (now : Instant) :
    let run := (reconcile key now).run environment lone
    run.result = result ∧ run.state.view = lone.view ∧ run.notices = [] ∧
      (result = .ok () →
        ∀ exchange ∈ run.exchanges, exchange.request.name.isWrite = false) := by
  rw [run_reconcile]
  cases hrests with
  | unread hfault =>
    rw [lone.answer_of_fault (.readGhost key) hfault]
    exact ⟨rfl, rfl, rfl, fun hok ↦ by cases hok⟩
  | gone hfault hghost =>
    rw [lone.answer_readGhost key hfault, hghost]
    refine ⟨rfl, rfl, rfl, fun _ exchange hexchange ↦ ?_⟩
    rw [List.mem_singleton.1 hexchange]
    rfl
  | @read ghost verdict reply hfault hghost hsettles hoffers =>
    rw [lone.answer_readGhost key hfault, hghost]
    obtain ⟨hresult, hview, hnotices, hquiet⟩ :=
      (lone.later lone.view).reconcileGhost_of_settles hfiled hghost hsettles hoffers now
    refine ⟨hresult, hview, hnotices, fun hok exchange hexchange ↦ ?_⟩
    rw [Run.exchanges_after] at hexchange
    rcases List.mem_cons.1 hexchange with rfl | hexchange
    · rfl
    · exact hquiet hok exchange hexchange

end LoneTeam

end BlogOperator
