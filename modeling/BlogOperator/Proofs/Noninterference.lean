import BlogOperator.Proofs.Alike
import BlogOperator.Proofs.Traffic

/-!
# Rounds that take turns

`interleaved_alike_inTurn` says that rounds for keys in different namespaces do not interfere. They
may take turns in any way, step by step, in any cluster that can come about and with any faults.
When all of them have ended, each has come to the same result as if the rounds had been made one
after another, in whatever order, and the same has happened in it: the same calls with the same
replies, the same notices and the same lines of the log. The cluster holds the same objects. All
this is without regard to versions, which the rounds draw from one counter.

Each round goes on as it would for its team on its own, but for the versions that it gets
(`Traffic.Tame.finish_follow`), and these make no difference (`LoneTeam.alike_reconcile`).
-/

set_option autoImplicit false

namespace BlogOperator

open BlogOperator.Time

variable {ι : Type} [DecidableEq ι]

/-- All passes have ended. -/
def Traffic.Ended {α : Type} (traffic : Traffic ι α) : Prop :=
  ∀ index, ∃ value, (traffic.passes index).result? = some value

namespace Traffic

variable {memory : Memory} {keys : ι → Key} {times : ι → Instant}

/-- A round that has ended while others were under way is one that was made for its team on its
own. -/
theorem exists_run_of_result? (horderly : memory.Orderly)
    (hkeys : Function.Injective fun index ↦ (keys index).namespaceName) {schedule : List ι}
    {index : ι} {value : Except Failure Unit}
    (hresult : (((ofRounds memory keys times).follow schedule).passes index).result? =
      some value) :
    let traffic := (ofRounds memory keys times).follow schedule
    ∃ earlier later, (reconcile (keys index) (times index)).run LoneTeam.environment
        ⟨memory.view (keys index).namespaceName, earlier⟩ =
      ⟨value, (traffic.passes index).past,
        ⟨traffic.memory.view (keys index).namespaceName, later⟩⟩ := by
  intro traffic
  obtain ⟨earlier, hearlier⟩ :=
    (tame_ofRounds horderly keys times).finish_follow hkeys schedule index fun _ ↦ 0
  rw [Underway.finish_of_result? hresult] at hearlier
  exact ⟨earlier, _, hearlier⟩

/-- Two ways of taking turns come to the same, without regard to versions. -/
theorem follow_alike (horderly : memory.Orderly)
    (hkeys : Function.Injective fun index ↦ (keys index).namespaceName) {first second : List ι}
    (hfirst : ((ofRounds memory keys times).follow first).Ended)
    (hsecond : ((ofRounds memory keys times).follow second).Ended) :
    let traffic := (ofRounds memory keys times).follow first
    let other := (ofRounds memory keys times).follow second
    (∀ index, (traffic.passes index).result? = (other.passes index).result? ∧
        (traffic.passes index).past.map Happening.unversioned =
          (other.passes index).past.map Happening.unversioned) ∧
      ∀ team, (traffic.memory.view team).unversioned = (other.memory.view team).unversioned := by
  intro traffic other
  have halike (index : ι) : (traffic.passes index).result? = (other.passes index).result? ∧
      (traffic.passes index).past.map Happening.unversioned =
        (other.passes index).past.map Happening.unversioned ∧
      (traffic.memory.view (keys index).namespaceName).unversioned =
        (other.memory.view (keys index).namespaceName).unversioned := by
    obtain ⟨value, hvalue⟩ := hfirst index
    obtain ⟨value', hvalue'⟩ := hsecond index
    obtain ⟨earlier, later, hrun⟩ := exists_run_of_result? horderly hkeys hvalue
    obtain ⟨earlier', later', hrun'⟩ := exists_run_of_result? horderly hkeys hvalue'
    have hfiled := horderly.filed (keys index).namespaceName
    have halike := LoneTeam.alike_reconcile ⟨memory.view (keys index).namespaceName, earlier⟩
      ⟨memory.view (keys index).namespaceName, earlier'⟩ rfl hfiled hfiled (times index)
    rw [hrun, hrun'] at halike
    refine ⟨?_, halike.happenings, halike.view⟩
    rw [hvalue, hvalue']
    exact congrArg some halike.result
  refine ⟨fun index ↦ ⟨(halike index).1, (halike index).2.1⟩, fun team ↦ ?_⟩
  by_cases hteam : ∃ index, (keys index).namespaceName = team
  · obtain ⟨index, rfl⟩ := hteam
    exact (halike index).2.2
  · -- Nobody has touched the other teams.
    have hothers (schedule : List ι) (index : ι) (_ : index ∈ schedule) :
        team ≠ (keys index).namespaceName := fun hindex ↦ hteam ⟨index, hindex.symm⟩
    have htame := tame_ofRounds horderly keys times
    rw [htame.view_follow first (hothers first), htame.view_follow second (hothers second)]

end Traffic

/-- Rounds for keys in different namespaces that take turns in any way come to the same as the
rounds made one after another in any order: each has the same result and the same things happen in
it, and the cluster holds the same objects, all without regard to versions. -/
theorem interleaved_alike_inTurn {memory : Memory} (hreachable : memory.Reachable)
    (faults : CallName → Option String) {keys : ι → Key}
    (hkeys : Function.Injective fun index ↦ (keys index).namespaceName) (times : ι → Instant)
    {schedule order : List ι}
    (hended : ((Traffic.ofRounds { memory with faults } keys times).follow schedule).Ended)
    (horder : ∀ index, index ∈ order) :
    let rounds := Traffic.ofRounds { memory with faults } keys times
    let interleaved := rounds.follow schedule
    let sequential := rounds.inTurn order
    (∀ index, (interleaved.passes index).result? = (sequential.passes index).result? ∧
        (interleaved.passes index).past.map Happening.unversioned =
          (sequential.passes index).past.map Happening.unversioned) ∧
      ∀ team, (interleaved.memory.view team).unversioned =
        (sequential.memory.view team).unversioned := by
  intro rounds interleaved sequential
  obtain ⟨turns, hturns⟩ := rounds.exists_inTurn_eq_follow order
  have hended' : (rounds.follow turns).Ended := fun index ↦ by
    rw [← hturns]
    exact rounds.result?_inTurn (horder index)
  have halike := Traffic.follow_alike (hreachable.withFaults faults).orderly hkeys hended hended'
  rw [← hturns] at halike
  exact halike

/-- The rounds for two blogs take turns at every step while nothing can be removed. The one for a
new blog creates all its children. The other one replaces a deployment that was made for another
image, creates what is missing, and fails at the ingress, which is no longer wanted. -/
theorem interleaved_alike_inTurn_two :
    let shop (spec : GhostSpec) : Ghost := {
      metadata := { name := some "shop", namespaceName := some "sales" }
      spec }
    let memory := [
      .apply {
        metadata := { name := some "blog", namespaceName := some "marketing" }
        spec := ⟨"5", 1, true⟩ },
      .apply (shop ⟨"5", 2, false⟩),
      .call (.change (.create .deployment (shop ⟨"4", 1, true⟩).deployment)),
      .call (.change (.create .ingress (shop ⟨"4", 1, true⟩).ingress))].foldl Memory.perform {}
    let faults (name : CallName) : Option String :=
      if name = .remove then some "timed out" else none
    let keys (index : Bool) : Key := if index then ⟨"marketing", "blog"⟩ else ⟨"sales", "shop"⟩
    let rounds := Traffic.ofRounds { memory with faults } keys fun _ ↦ .epoch
    let interleaved := rounds.follow (List.replicate 20 [true, false]).flatten
    let sequential := rounds.inTurn [false, true]
    let reasons (index : Bool) := ((interleaved.passes index).past.filterMap Happening.notice?).map
      Notice.reason
    (interleaved.passes true).result? = some (.ok ()) ∧
      reasons true = ["PVCReady", "DeploymentCreated", "ServiceCreated", "IngressCreated"] ∧
      (interleaved.passes false).result? = some (.error (.api "timed out")) ∧
      reasons false = ["PVCReady", "DeploymentUpdated", "ServiceCreated"] ∧
      (∀ index, (interleaved.passes index).result? = (sequential.passes index).result? ∧
        (interleaved.passes index).past.map Happening.unversioned =
          (sequential.passes index).past.map Happening.unversioned) ∧
      ∀ team, (interleaved.memory.view team).unversioned =
        (sequential.memory.view team).unversioned := by
  intro shop memory faults keys rounds interleaved sequential reasons
  have hreachable : memory.Reachable := Memory.Reachable.empty.foldl _
  have hkeys : Function.Injective fun index ↦ (keys index).namespaceName := by
    unfold Function.Injective
    decide
  have hblog : (interleaved.passes true).result? = some (.ok ()) := by
    dsimp only [interleaved, rounds, keys, faults, memory, shop]
    rfl
  have hshop : (interleaved.passes false).result? = some (.error (.api "timed out")) := by
    dsimp only [interleaved, rounds, keys, faults, memory, shop]
    rfl
  have hended : interleaved.Ended := by
    intro index
    cases index with
    | true => exact ⟨_, hblog⟩
    | false => exact ⟨_, hshop⟩
  have horder : ∀ index, index ∈ [false, true] := by decide
  have halike := interleaved_alike_inTurn hreachable faults hkeys (fun _ ↦ .epoch) hended horder
  exact ⟨hblog, by decide +kernel, hshop, by decide +kernel, halike⟩

end BlogOperator
