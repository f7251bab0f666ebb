import BlogOperator.Proofs.Completion
import BlogOperator.Proofs.History

/-!
# Rounds that are broken off

A round may be dropped after any of its steps, and it may end early because calls fail. Either way
it has got part of the way (`TeamView.Partway`): each child is as it was, or already as the round
leaves it, and the blog has at most been given another status. A complete round that is made after
that finds some children as the first round found them, and has nothing to do for the others
(`Ghost.Leaves.trans`). So it brings about what it would have brought about without the first one
(`interrupted_reconcile`).
-/

set_option autoImplicit false

namespace BlogOperator

open BlogOperator.Kubernetes BlogOperator.Time

/-! ### Part of the way -/

/-- How far a round for the key of a blog may have got with its team, after the exchanges so far. -/
structure TeamView.Partway (key : Key) (ghost : Ghost) (before : TeamView) (past : List Exchange)
    (view : TeamView) : Prop where
  /-- The blog has been given another status, or it is as it was. -/
  restamped : ∃ other, view.ghosts key.name = some other ∧ ghost.Restamped other
  /-- The blog is as it was until a status is offered. -/
  untouched : (∀ exchange ∈ past, exchange.request.name ≠ .writeStatus) →
    view.ghosts key.name = some ghost
  /-- Each child is as it was, or as it is to be left. -/
  child : ∀ kind : ChildKind,
    view.children kind (kind.childName key.namespaceName) =
        before.children kind (kind.childName key.namespaceName) ∨
      ghost.Leaves kind (before.children kind (kind.childName key.namespaceName))
        (view.children kind (kind.childName key.namespaceName))
  /-- What has other names is as it was. -/
  elsewhere : ∀ (kind : ChildKind) (name : String), name ≠ kind.childName key.namespaceName →
    view.children kind name = before.children kind name
  /-- The blog is the one that has been read. -/
  read : ∀ {other}, BeganWith key other past → other = ghost
  /-- A child that has been looked up last is still there as it was found. -/
  found : ∀ {kind : ChildKind} {live : Option kind.Object},
    past.getLast? = some ⟨.find kind ⟨key.namespaceName, kind.childName key.namespaceName⟩,
      .ok live⟩ → live = view.children kind (kind.childName key.namespaceName)

namespace TeamView.Partway

variable {key : Key} {now : Instant} {ghost : Ghost} {before view : TeamView}
  {past : List Exchange}

theorem start (hghost : before.ghosts key.name = some ghost) :
    before.Partway key ghost [] before where
  restamped := ⟨ghost, hghost, .inl rfl⟩
  untouched _ := hghost
  child kind := .inl rfl
  elsewhere kind name hname := rfl
  read hbegan := by cases hbegan
  found hlast := by cases hlast

/-- An exchange that changes nothing takes the round on if it brings nothing to light but what is
there. -/
theorem same (hpartway : before.Partway key ghost past view) {exchange : Exchange}
    (hread : ∀ {other}, BeganWith key other (past ++ [exchange]) → other = ghost)
    (hfound : ∀ {kind : ChildKind} {live : Option kind.Object},
      exchange = ⟨.find kind ⟨key.namespaceName, kind.childName key.namespaceName⟩, .ok live⟩ →
        live = view.children kind (kind.childName key.namespaceName)) :
    before.Partway key ghost (past ++ [exchange]) view where
  restamped := hpartway.restamped
  untouched hquiet := hpartway.untouched fun other hother ↦
    hquiet other (List.mem_append_left _ hother)
  child := hpartway.child
  elsewhere := hpartway.elsewhere
  read := hread
  found hlast := by
    rw [List.getLast?_concat] at hlast
    exact hfound (Option.some.inj hlast)

/-- A call that changes nothing takes the round on if it finds no child but what is there. -/
theorem idle (hpartway : before.Partway key ghost past view) (hbegan : BeganWith key ghost past)
    {exchange : Exchange}
    (hfound : ∀ {kind : ChildKind} {live : Option kind.Object},
      exchange = ⟨.find kind ⟨key.namespaceName, kind.childName key.namespaceName⟩, .ok live⟩ →
        live = view.children kind (kind.childName key.namespaceName)) :
    before.Partway key ghost (past ++ [exchange]) view :=
  hpartway.same (fun hother ↦ hother.unique (hbegan.append _)) hfound

/-- The blog has been given a status. -/
theorem offered (hpartway : before.Partway key ghost past view)
    (hbegan : BeganWith key ghost past) {stored : Ghost}
    (hstored : view.ghosts key.name = some stored) (version : UInt64) (status : GhostStatus)
    (reply : Except Failure Unit) :
    before.Partway key ghost (past ++ [⟨.writeStatus ghost status, reply⟩])
      (view.withGhost key.name (stored.withStatus version status)) where
  restamped := by
    obtain ⟨other, hother, hrestamped⟩ := hpartway.restamped
    obtain rfl : other = stored := Option.some.inj (hother.symm.trans hstored)
    exact ⟨_, view.ghosts_withGhost_self _ _, hrestamped.withStatus version status⟩
  untouched hquiet := absurd rfl (hquiet _ (List.mem_append_right _ List.mem_cons_self))
  child := hpartway.child
  elsewhere := hpartway.elsewhere
  read hother := hother.unique (hbegan.append _)
  found hlast := by
    rw [List.getLast?_concat] at hlast
    cases hlast

/-- A child has been written that has just been looked up. -/
theorem wrote (hpartway : before.Partway key ghost past view)
    (hbegan : BeganWith key ghost past) (hfiled : view.Filed key.namespaceName)
    (hteam : ghost.team = key.namespaceName) {write : Write}
    (hwants : ghost.Wants key.namespaceName write.kind
      (view.children write.kind (write.kind.childName key.namespaceName)) write)
    (version : UInt64) (reply : Except Failure Unit) :
    before.Partway key ghost (past ++ [⟨.change write, reply⟩]) (view.written version write) where
  restamped := hpartway.restamped
  untouched hquiet := hpartway.untouched fun other hother ↦
    hquiet other (List.mem_append_left _ hother)
  child kind := by
    have hkey := hwants.key_eq hteam fun object ↦ hfiled.children
    by_cases hkind : kind = write.kind
    · subst hkind
      have hleaves := TeamView.leaves_written hfiled hteam hwants version
      -- A child that has been seen to is at rest, and nothing would be wanted of it.
      have hfresh := (hpartway.child write.kind).resolve_right fun hseen ↦
        hwants.not_atRest hseen.atRest
      rw [hfresh] at hleaves
      exact .inr hleaves
    · rw [children_written_of_ne _ _ _ (.inl hkind)]
      exact hpartway.child kind
  elsewhere kind name hname := by
    have hkey := hwants.key_eq hteam fun object ↦ hfiled.children
    have hplace : kind ≠ write.kind ∨ name ≠ write.key.name := by
      by_cases hkind : kind = write.kind
      · subst hkind
        rw [hkey]
        exact .inr hname
      · exact .inl hkind
    rw [children_written_of_ne _ _ _ hplace]
    exact hpartway.elsewhere kind name hname
  read hother := hother.unique (hbegan.append _)
  found hlast := by
    rw [List.getLast?_concat] at hlast
    cases hlast

/-- A grounded call takes the round on. -/
theorem answer (hpartway : before.Partway key ghost past view)
    (hfiled : view.Filed key.namespaceName) {request : Call}
    (hgrounded : request.Grounded key now past) (version : UInt64) :
    before.Partway key ghost (past ++ [⟨request, (view.answer version request).1⟩])
      (view.answer version request).2 := by
  obtain ⟨stored, hstored, hrestamped⟩ := hpartway.restamped
  have hkey : Key.ofMetadata ghost.metadata = key :=
    hrestamped.ofMetadata_eq.symm.trans (hfiled.ghosts hstored)
  unfold TeamView.answer
  cases request with
  | readGhost place =>
    obtain ⟨rfl, rfl⟩ := hgrounded
    cases view.faults (Call.readGhost place).name with
    | some message =>
      exact hpartway.same (fun hother ↦ by cases hother) fun hfind ↦ by cases hfind
    | none =>
      have hghost := hpartway.untouched fun exchange hexchange ↦ by cases hexchange
      change before.Partway place ghost
        ([] ++ [⟨.readGhost place, .ok (view.ghosts place.name)⟩]) view
      rw [hghost]
      exact hpartway.same (fun hother ↦ by cases hother; rfl) fun hfind ↦ by cases hfind
  | find kind place =>
    obtain ⟨rfl, copy, hbegan⟩ := hgrounded
    obtain rfl := hpartway.read hbegan
    cases view.faults (Call.find kind _).name with
    | some message => exact hpartway.idle hbegan fun hfind ↦ by cases hfind
    | none => exact hpartway.idle hbegan fun hfind ↦ by cases hfind; rfl
  | writeStatus copy status =>
    obtain ⟨hbegan, -⟩ := hgrounded
    obtain rfl := hpartway.read hbegan
    cases view.faults (Call.writeStatus copy status).name with
    | some message => exact hpartway.idle hbegan fun hfind ↦ by cases hfind
    | none =>
      unfold serve serveStatus
      dsimp only
      rw [hkey, hstored]
      dsimp only
      split
      · exact hpartway.offered hbegan hstored version status (.ok ())
      · exact hpartway.idle hbegan fun hfind ↦ by cases hfind
  | change write =>
    obtain ⟨copy, live, hbegan, hlast, hwants⟩ := hgrounded
    obtain rfl := hpartway.read hbegan
    obtain rfl := hpartway.found hlast
    have hteam : copy.team = key.namespaceName := congrArg Key.namespaceName hkey
    cases view.faults (Call.change write).name with
    | some message => exact hpartway.idle hbegan fun hfind ↦ by cases hfind
    | none =>
      change before.Partway key copy (past ++ [⟨.change write, (view.serveWrite version write).1⟩])
        (view.serveWrite version write).2
      rw [serveWrite_of_wants hfiled hteam hwants version]
      exact hpartway.wrote hbegan hfiled hteam hwants version (.ok ())

end TeamView.Partway

/-! ### Steps of a round -/

/-- A step of a round that has got part of the way takes it on. -/
theorem Underway.partway_advance {underway : Underway (Except Failure Unit)} {memory : Memory}
    {key : Key} {now : Instant} {ghost : Ghost} {before : TeamView} (horderly : memory.Orderly)
    (hconfined : underway.rest.Confined key.namespaceName)
    (hgrounded : underway.rest.Grounded key now underway.exchanges)
    (hpartway : before.Partway key ghost underway.exchanges (memory.view key.namespaceName)) :
    before.Partway key ghost (underway.advance memory).1.exchanges
      ((underway.advance memory).2.view key.namespaceName) := by
  rcases underway.advance_cases memory with
    ⟨request, hrequest, hexchanges, hmemory⟩ | ⟨-, hexchanges, hmemory⟩
  · have hview := memory.view_answer request
    rw [hconfined.request hrequest, Prod.ext_iff] at hview
    obtain ⟨hreply, hafter⟩ := hview
    dsimp only at hreply hafter
    rw [hexchanges, hmemory, hreply, hafter]
    exact hpartway.answer (horderly.filed _) (hgrounded.request hrequest) _
  · rw [hexchanges, hmemory]
    exact hpartway

namespace Traffic

variable {keys : Unit → Key} {times : Unit → Instant} {ghost : Ghost} {before : TeamView}
  {traffic : Traffic Unit (Except Failure Unit)}

/-- Step by step a round gets part of the way. -/
theorem Regular.partway_follow (hregular : traffic.Regular keys times)
    (hpartway : before.Partway (keys ()) ghost (traffic.passes ()).exchanges
      (traffic.memory.view (keys ()).namespaceName)) (steps : Nat) :
    let later := traffic.follow (List.replicate steps ())
    later.memory.Orderly ∧
      before.Partway (keys ()) ghost (later.passes ()).exchanges
        (later.memory.view (keys ()).namespaceName) := by
  have horderly := hregular.reachable.orderly
  induction steps generalizing traffic with
  | zero => exact ⟨horderly, hpartway⟩
  | succ steps ih =>
    have hregular' := hregular.undergo (.step ())
    refine ih hregular' ?_ hregular'.reachable.orderly
    simp only [passes_advance_self]
    exact Underway.partway_advance horderly (hregular.confined ()) (hregular.grounded ()) hpartway

end Traffic

/-! ### A complete round after one that was broken off -/

/-- A complete round that follows a round which got part of the way comes to the same as if there
had not been another. -/
theorem TeamView.Partway.completed {key : Key} {ghost other : Ghost} {before view after : TeamView}
    {past : List Exchange} (hpartway : before.Partway key ghost past view)
    (hrestamped : ghost.Restamped other) (hcompleted : view.Completed key other after) :
    before.Completed key ghost after where
  child kind := by
    have hleaves := (hcompleted.child kind).of_restamped hrestamped
    rcases hpartway.child kind with hfresh | hseen
    · rwa [hfresh] at hleaves
    · exact hseen.trans hleaves
  elsewhere kind name hname := by
    rw [hcompleted.elsewhere kind name hname, hpartway.elsewhere kind name hname]

/-- A round that was broken off does not show: whatever steps it has made and whatever calls of it
have failed, a complete round after it succeeds, and leaves the same children as if there had been
no other before it, versions apart. As long as no status has been offered the blog is as it was. -/
theorem interrupted_reconcile {memory : Memory} (hreachable : memory.Reachable) {key : Key}
    {ghost : Ghost} (hghost : memory.ghosts.find? key = some ghost) {name : String}
    (hname : ghost.metadata.name = some name) (faults : CallName → Option String)
    (now later anytime : Instant) (steps : Nat) :
    let first := (Traffic.ofRounds { memory with faults } (fun _ ↦ key) fun _ ↦ now).follow
      (List.replicate steps ())
    let second := (reconcile key later).run Memory.environment first.memory.healed
    let direct := (reconcile key anytime).run Memory.environment memory.healed
    second.result = .ok () ∧
      (second.state.view key.namespaceName).unversioned.children =
        (direct.state.view key.namespaceName).unversioned.children ∧
      ((∀ exchange ∈ (first.passes ()).exchanges, exchange.request.name ≠ .writeStatus) →
        first.memory.ghosts.find? key = some ghost) := by
  intro first second direct
  have hfaulty := hreachable.withFaults faults
  obtain ⟨horderly, hpartway⟩ :=
    (Traffic.regular_ofRounds hfaulty (fun _ ↦ key) fun _ ↦ now).partway_follow (.start hghost)
      steps
  obtain ⟨other, hother, hrestamped⟩ := hpartway.restamped
  obtain ⟨hresult, hsecond⟩ :=
    horderly.completed_reconcile hother (hrestamped.name_eq.trans hname) later
  obtain ⟨-, hdirect⟩ := hfaulty.orderly.completed_reconcile hghost hname anytime
  exact ⟨hresult, (hpartway.completed hrestamped hsecond).children_eq hdirect, hpartway.untouched⟩

/-- The blog has been given another image and no ingress since its deployment and its ingress were
made. A round is dropped after it has created the claim and replaced the deployment; the next one
creates the service and removes the ingress. -/
theorem interrupted_reconcile_marketing :
    let key : Key := ⟨"marketing", "blog"⟩
    let old : Ghost := {
      metadata := { name := some "blog", namespaceName := some "marketing" }
      spec := ⟨"4", 1, true⟩ }
    let memory := [
      .apply old, .call (.change (.create .deployment old.deployment)),
      .call (.change (.create .ingress old.ingress)),
      .edit key fun _ ↦ ⟨"5", 2, false⟩].foldl Memory.perform {}
    let first := (Traffic.ofRounds { memory with faults := fun _ ↦ none } (fun _ ↦ key)
      fun _ ↦ .epoch).follow (List.replicate 10 ())
    let second := (reconcile key .epoch).run Memory.environment first.memory.healed
    let direct := (reconcile key .epoch).run Memory.environment memory.healed
    let present (memory : Memory) := ChildKind.all.filter fun kind ↦
      (memory.child? "marketing" kind).isSome
    (first.passes ()).exchanges.map (fun exchange ↦ exchange.request.name) =
        [.readGhost, .find .volumeClaim, .create .volumeClaim, .find .deployment, .replace] ∧
      present memory = [.deployment, .ingress] ∧
      present first.memory = [.volumeClaim, .deployment, .ingress] ∧
      present second.state = [.volumeClaim, .deployment, .service] ∧
      second.result = .ok () ∧
      (second.state.view key.namespaceName).unversioned.children =
        (direct.state.view key.namespaceName).unversioned.children ∧
      first.memory.ghosts.find? key = memory.ghosts.find? key := by
  intro key old memory first second direct present
  have hreachable : memory.Reachable := Memory.Reachable.empty.foldl _
  obtain ⟨ghost, hghost, hname⟩ : ∃ ghost, memory.ghosts.find? key = some ghost ∧
      ghost.metadata.name = some "blog" := by
    dsimp only [memory, old, key]
    exact ⟨_, rfl, rfl⟩
  obtain ⟨hresult, hchildren, huntouched⟩ := interrupted_reconcile hreachable hghost hname
    (fun _ ↦ none) .epoch .epoch .epoch 10
  have hnames : (first.passes ()).exchanges.map (fun exchange ↦ exchange.request.name) =
      [.readGhost, .find .volumeClaim, .create .volumeClaim, .find .deployment, .replace] := by
    decide +kernel
  refine ⟨hnames, by decide +kernel, by decide +kernel, by decide +kernel, hresult, hchildren, ?_⟩
  rw [hghost]
  refine huntouched fun exchange hexchange hname ↦ ?_
  have hmem := List.mem_map_of_mem (f := fun exchange ↦ exchange.request.name) hexchange
  rw [hnames, hname] at hmem
  simp at hmem

end BlogOperator
