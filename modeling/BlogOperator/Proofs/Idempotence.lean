import BlogOperator.Proofs.Rest
import BlogOperator.Proofs.Traffic

/-!
# A round made again

`reconcile_again` says that a round that is made a second time comes to nothing new. The cluster is
any that can come about, with any faults; between the two rounds others may be made for keys in
other namespaces, in turns and not necessarily to their ends, and the clock may read anything. The
second round has the result of the first one, leaves everything in the namespace as it found it, the
versions included, and announces nothing. If the first one succeeded, the second makes no writing
call.

The first round leaves its team at rest (`LoneTeam.rests_reconcile`), the rounds in between do not
touch the team (`Traffic.Tame.view_follow`), and a team at rest stays as it is
(`LoneTeam.reconcile_of_rests`).
-/

set_option autoImplicit false

namespace BlogOperator

open BlogOperator.Time

/-- A round in an orderly cluster leaves its team at rest, and the cluster orderly. -/
theorem Memory.Orderly.rests_reconcile {memory : Memory} (horderly : memory.Orderly) (key : Key)
    (now : Instant) :
    let run := (reconcile key now).run Memory.environment memory
    run.state.Orderly ∧ (run.state.view key.namespaceName).Rests key run.result := by
  intro run
  obtain ⟨horderly', -, earlier, hlone⟩ :=
    Pass.run_memory horderly (confined_reconcile key now) fun _ ↦ 0
  have hrests := LoneTeam.rests_reconcile ⟨memory.view key.namespaceName, earlier⟩
    (horderly.filed key.namespaceName) now
  rw [hlone] at hrests
  exact ⟨horderly', hrests⟩

/-- A round in an orderly cluster does nothing for a team at rest. -/
theorem Memory.Orderly.reconcile_of_rests {memory : Memory} (horderly : memory.Orderly) {key : Key}
    {result : Except Failure Unit} (hrests : (memory.view key.namespaceName).Rests key result)
    (now : Instant) :
    let run := (reconcile key now).run Memory.environment memory
    run.result = result ∧ run.state.view key.namespaceName = memory.view key.namespaceName ∧
      run.notices = [] ∧
      (result = .ok () →
        ∀ exchange ∈ run.exchanges, exchange.request.name.isWrite = false) := by
  intro run
  obtain ⟨-, -, earlier, hlone⟩ :=
    Pass.run_memory horderly (confined_reconcile key now) fun _ ↦ 0
  have hquiet := LoneTeam.reconcile_of_rests ⟨memory.view key.namespaceName, earlier⟩
    (horderly.filed key.namespaceName) hrests now
  rw [hlone] at hquiet
  exact hquiet

/-- A round that is made again has the same result, changes nothing in its namespace and announces
nothing, whatever faults there are and whatever rounds have been made for other namespaces in
between. After a success it makes no writing call. -/
theorem reconcile_again {memory : Memory} (hreachable : memory.Reachable)
    (faults : CallName → Option String) (key : Key) (now later : Instant) {ι : Type}
    [DecidableEq ι] {others : ι → Key}
    (hothers : ∀ index, (others index).namespaceName ≠ key.namespaceName)
    (times : ι → Instant) (schedule : List ι) :
    let first := (reconcile key now).run Memory.environment { memory with faults }
    let between := (Traffic.begin first.state fun index ↦
      reconcile (others index) (times index)).follow schedule
    let second := (reconcile key later).run Memory.environment between.memory
    second.result = first.result ∧
      second.state.view key.namespaceName = between.memory.view key.namespaceName ∧
      second.notices = [] ∧
      (first.result = .ok () →
        ∀ exchange ∈ second.exchanges, exchange.request.name.isWrite = false) := by
  intro first between second
  have horderly := (hreachable.withFaults faults).orderly
  obtain ⟨horderly', hrests⟩ := horderly.rests_reconcile key now
  have htame : (Traffic.begin first.state fun index ↦ reconcile (others index) (times index)).Tame
      fun index ↦ (others index).namespaceName :=
    Traffic.tame_begin horderly' fun index ↦ confined_reconcile (others index) (times index)
  have hview : between.memory.view key.namespaceName = first.state.view key.namespaceName :=
    htame.view_follow schedule fun index _ ↦ (hothers index).symm
  exact (htame.follow schedule).orderly.reconcile_of_rests (hview ▸ hrests) later

/-- A round for a new blog whose service cannot be created fails again in the same way, with two
other rounds taking turns in between. -/
theorem reconcile_again_marketing :
    let memory := ({} : Memory).perform (.apply {
      metadata := { name := some "blog", namespaceName := some "marketing" }
      spec := ⟨"5", 1, true⟩ })
    let faults : CallName → Option String
      | .create .service => some "no port is free"
      | _ => none
    let key : Key := ⟨"marketing", "blog"⟩
    let others (index : Bool) : Key := if index then ⟨"sales", "shop"⟩ else ⟨"support", "help"⟩
    let first := (reconcile key .epoch).run Memory.environment { memory with faults }
    let between := (Traffic.begin first.state fun index ↦ reconcile (others index) .epoch).follow
      [true, false, true, false]
    let second := (reconcile key .epoch).run Memory.environment between.memory
    first.result = .error (.api "no port is free") ∧ second.result = first.result ∧
      second.state.view key.namespaceName = between.memory.view key.namespaceName ∧
      second.notices = [] := by
  intro memory faults key others first between second
  have hreachable : memory.Reachable := .perform .empty _
  have hothers : ∀ index, (others index).namespaceName ≠ key.namespaceName := by decide
  have hagain := reconcile_again hreachable faults key .epoch .epoch hothers (fun _ ↦ .epoch)
    [true, false, true, false]
  exact ⟨rfl, hagain.1, hagain.2.1, hagain.2.2.1⟩

end BlogOperator
