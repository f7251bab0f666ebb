import BlogOperator.Proofs.LoneTeam

/-!
# Passes that take turns

`Traffic` is a cluster in memory with passes that are being run against it. `Traffic.advance` lets
one of the passes go one step further, `Traffic.follow` lets them take turns as a schedule says,
and `Traffic.complete` runs one of them to its end. Running passes to their ends one after another
is following a schedule (`Traffic.exists_inTurn_eq_follow`).

Where each pass is confined to a team of its own, a pass does not notice the others. What it would
go on to do for a team on its own (`Underway.finish`) stays what it was from the start, whatever
steps the others make in between (`Traffic.Tame.finish_follow`); only the versions that it gets are
another matter. What belongs to a team that no pass is about does not change
(`Traffic.Tame.view_follow`). `Pass.run_memory` says the same of a single pass that is run to its
end.
-/

set_option autoImplicit false

namespace BlogOperator

/-! ### Records of what happens -/

/-- A record of what happens grows as it should when passes are run against a cluster. -/
structure Growth.Tracks {η : Type} (growth : Growth η) (record : List Happening → η)
    (memory : Memory) : Prop where
  called : ∀ past request, growth.called (record past) request (memory.answer request).1
    (record (past ++ [.called request (memory.answer request).1]))
  announced : ∀ past notice, growth.announced (record past) (record (past ++ [.announced notice]))
  logged : ∀ past line, record (past ++ [.logged line]) = record past

theorem Growth.tracks_exchanges (memory : Memory) :
    Growth.exchanges.Tracks (List.filterMap Happening.exchange?) memory where
  called past request := by simp [exchanges]
  announced past notice := by simp [exchanges]
  logged past line := by simp

theorem Memory.Orderly.tracks_credible {memory : Memory} (horderly : memory.Orderly) :
    Growth.credible.Tracks (fun _ ↦ ()) memory where
  called _ request := horderly.credible request
  announced _ _ := trivial
  logged _ _ := rfl

/-! ### One pass -/

/-- A pass that is being run. -/
structure Underway (α : Type) where
  /-- What is left of the pass. -/
  rest : Pass α
  /-- What has happened so far, in order. -/
  past : List Happening := []

namespace Underway

variable {α : Type}

/-- The value that the pass has ended with, if it has. -/
def result? (underway : Underway α) : Option α :=
  match underway.rest with
  | .done value => some value
  | _ => none

/-- Makes one step of the pass: one call, one notice, or one line of the log. -/
def advance (underway : Underway α) (memory : Memory) : Underway α × Memory :=
  match underway.rest with
  | .done _ => (underway, memory)
  | .call request next =>
    (⟨next (memory.answer request).1,
      underway.past ++ [.called request (memory.answer request).1]⟩, (memory.answer request).2)
  | .announce notice next => (⟨next, underway.past ++ [.announced notice]⟩, memory)
  | .log line next => (⟨next, underway.past ++ [.logged line]⟩, memory)

/-- Runs the pass to its end. -/
def complete (underway : Underway α) (memory : Memory) : Underway α × Memory :=
  let run := underway.rest.run Memory.environment memory
  (⟨.done run.result, underway.past ++ run.happenings⟩, run.state)

theorem complete_of_done {underway : Underway α} {value : α}
    (hrest : underway.rest = .done value) (memory : Memory) :
    underway.complete memory = (underway, memory) := by
  obtain ⟨rest, past⟩ := underway
  cases hrest
  simp [complete]

/-- A step of a pass does not change how it ends. -/
theorem complete_advance (underway : Underway α) (memory : Memory) :
    (underway.advance memory).1.complete (underway.advance memory).2 =
      underway.complete memory := by
  obtain ⟨rest, past⟩ := underway
  cases rest with
  | done value => rfl
  | call request next =>
    unfold complete advance
    dsimp only
    rw [Pass.run_call, Run.happenings_after, List.append_assoc]
    rfl
  | announce notice next =>
    unfold complete advance
    dsimp only
    rw [Pass.run_announce, Run.happenings_after, List.append_assoc]
    rfl
  | log line next =>
    unfold complete advance
    dsimp only
    rw [Pass.run_log, Run.happenings_after, List.append_assoc]
    rfl

/-- The run that the pass would be if it went on for a team on its own. -/
def finish (underway : Underway α) (lone : LoneTeam) : Run LoneTeam α :=
  (underway.rest.run LoneTeam.environment lone).after underway.past

/-- A pass that has ended does no more. -/
theorem finish_of_result? {underway : Underway α} {value : α}
    (hresult : underway.result? = some value) (lone : LoneTeam) :
    underway.finish lone = ⟨value, underway.past, lone⟩ := by
  obtain ⟨rest, past⟩ := underway
  cases rest with
  | done result =>
    cases hresult
    simp [finish, Run.after]
  | call request next => cases hresult
  | announce notice next => cases hresult
  | log line next => cases hresult

section Step

variable {underway : Underway α} {memory : Memory} {team : String}

/-- What is left of a pass keeps a rule after a step, where the record tracks what happens. -/
theorem keeps_advance {η : Type} {growth : Growth η} {record : List Happening → η}
    {rule : η → Call → Prop} {ensured : η → α → Prop} (htracks : growth.Tracks record memory)
    (hkeeps : underway.rest.Keeps growth rule ensured (record underway.past)) :
    (underway.advance memory).1.rest.Keeps growth rule ensured
      (record (underway.advance memory).1.past) := by
  obtain ⟨rest, past⟩ := underway
  cases rest with
  | done value => exact hkeeps
  | call request next => exact hkeeps.2 _ _ (htracks.called past request)
  | announce notice next => exact hkeeps _ (htracks.announced past notice)
  | log line next =>
    dsimp only [advance]
    rw [htracks.logged]
    exact hkeeps

theorem orderly_advance (horderly : memory.Orderly) : (underway.advance memory).2.Orderly := by
  obtain ⟨rest, past⟩ := underway
  cases rest with
  | done value => exact horderly
  | call request next => exact horderly.answer request
  | announce notice next => exact horderly
  | log line next => exact horderly

theorem confined_advance (horderly : memory.Orderly) (hconfined : underway.rest.Confined team) :
    (underway.advance memory).1.rest.Confined team :=
  keeps_advance horderly.tracks_credible hconfined

/-- A step of a confined pass changes nothing for other teams. -/
theorem view_advance_of_ne (hconfined : underway.rest.Confined team) {other : String}
    (hother : other ≠ team) : (underway.advance memory).2.view other = memory.view other := by
  obtain ⟨rest, past⟩ := underway
  cases rest with
  | done value => rfl
  | call request next =>
    obtain ⟨rfl, -⟩ := hconfined
    exact memory.view_answer_of_ne hother
  | announce notice next => rfl
  | log line next => rfl

/-- A step of a confined pass is the step that it would make for its team on its own, with the
version that the cluster happens to be at. -/
theorem finish_advance (hconfined : underway.rest.Confined team) (versions : Nat → UInt64) :
    ∃ earlier, underway.finish ⟨memory.view team, earlier⟩ =
      (underway.advance memory).1.finish ⟨(underway.advance memory).2.view team, versions⟩ := by
  obtain ⟨rest, past⟩ := underway
  cases rest with
  | done value => exact ⟨versions, rfl⟩
  | call request next =>
    obtain ⟨rfl, -⟩ := hconfined
    have hanswer := memory.view_answer request
    rw [Prod.ext_iff] at hanswer
    obtain ⟨hreply, hview⟩ := hanswer
    dsimp only at hreply hview
    refine ⟨fun index ↦ index.casesOn (memory.version + 1) versions, ?_⟩
    unfold finish advance
    dsimp only
    rw [Pass.run_call, hreply, hview, Run.after_after]
    rfl
  | announce notice next => exact ⟨versions, by simp [finish, advance, Pass.run_announce]; rfl⟩
  | log line next => exact ⟨versions, by simp [finish, advance, Pass.run_log]⟩

end Step

end Underway

/-! ### Many passes -/

/-- A cluster with the passes that are being run against it. -/
structure Traffic (ι α : Type) where
  memory : Memory
  passes : ι → Underway α

namespace Traffic

variable {ι α : Type}

/-- Traffic of passes that have not made a step yet. -/
def begin (memory : Memory) (passes : ι → Pass α) : Traffic ι α where
  memory := memory
  passes index := { rest := passes index }

/-- Traffic of rounds that have not made a step yet. -/
def ofRounds (memory : Memory) (keys : ι → Key) (times : ι → Time.Instant) :
    Traffic ι (Except Failure Unit) :=
  .begin memory fun index ↦ reconcile (keys index) (times index)

variable [DecidableEq ι]

/-- One of the passes makes a step. -/
def advance (traffic : Traffic ι α) (index : ι) : Traffic ι α where
  memory := ((traffic.passes index).advance traffic.memory).2
  passes := Function.update traffic.passes index
    ((traffic.passes index).advance traffic.memory).1

/-- The passes make steps in the order of a schedule. -/
def follow (traffic : Traffic ι α) (schedule : List ι) : Traffic ι α :=
  schedule.foldl advance traffic

/-- One of the passes is run to its end. -/
def complete (traffic : Traffic ι α) (index : ι) : Traffic ι α where
  memory := ((traffic.passes index).complete traffic.memory).2
  passes := Function.update traffic.passes index
    ((traffic.passes index).complete traffic.memory).1

/-- The passes are run to their ends one after another. -/
def inTurn (traffic : Traffic ι α) (order : List ι) : Traffic ι α :=
  order.foldl complete traffic

@[simp] theorem follow_cons (traffic : Traffic ι α) (index : ι) (schedule : List ι) :
    traffic.follow (index :: schedule) = (traffic.advance index).follow schedule := rfl

theorem follow_append (traffic : Traffic ι α) (first second : List ι) :
    traffic.follow (first ++ second) = (traffic.follow first).follow second :=
  List.foldl_append

@[simp] theorem inTurn_cons (traffic : Traffic ι α) (index : ι) (order : List ι) :
    traffic.inTurn (index :: order) = (traffic.complete index).inTurn order := rfl

@[simp] theorem passes_advance_self (traffic : Traffic ι α) (index : ι) :
    (traffic.advance index).passes index =
      ((traffic.passes index).advance traffic.memory).1 := by
  simp [advance]

theorem passes_advance_of_ne (traffic : Traffic ι α) {index other : ι} (hother : other ≠ index) :
    (traffic.advance index).passes other = traffic.passes other := by
  simp [advance, hother]

/-! ### Passes that are run to their ends -/

theorem result?_complete_self (traffic : Traffic ι α) (index : ι) :
    ∃ value, ((traffic.complete index).passes index).result? = some value := by
  simp [complete, Underway.complete, Underway.result?]

/-- A pass that has ended stays as it is when a pass is completed. -/
theorem result?_complete {traffic : Traffic ι α} {index : ι}
    (hended : ∃ value, (traffic.passes index).result? = some value) (other : ι) :
    ∃ value, ((traffic.complete other).passes index).result? = some value := by
  by_cases hother : index = other
  · subst hother
    exact traffic.result?_complete_self index
  · simpa [complete, hother] using hended

/-- A pass that has ended stays as it is when passes are completed one after another. -/
theorem result?_inTurn_of_ended {traffic : Traffic ι α} {index : ι}
    (hended : ∃ value, (traffic.passes index).result? = some value) (order : List ι) :
    ∃ value, ((traffic.inTurn order).passes index).result? = some value := by
  induction order generalizing traffic with
  | nil => exact hended
  | cons first rest ih => exact ih (result?_complete hended first)

/-- Every pass whose turn comes reaches its end. -/
theorem result?_inTurn (traffic : Traffic ι α) {order : List ι} {index : ι}
    (hindex : index ∈ order) :
    ∃ value, ((traffic.inTurn order).passes index).result? = some value := by
  induction order generalizing traffic with
  | nil => cases hindex
  | cons first rest ih =>
    rcases List.mem_cons.1 hindex with rfl | hrest
    · exact result?_inTurn_of_ended (traffic.result?_complete_self index) rest
    · exact ih (traffic.complete first) hrest

/-- A step of a pass does not change how it ends. -/
theorem complete_advance (traffic : Traffic ι α) (index : ι) :
    (traffic.advance index).complete index = traffic.complete index := by
  have hmemory : (traffic.advance index).memory =
      ((traffic.passes index).advance traffic.memory).2 := rfl
  unfold complete
  rw [passes_advance_self, hmemory, Underway.complete_advance]
  congr 1
  exact Function.update_idem _ _ _

/-- Completing a pass is letting it make steps until it ends. -/
theorem exists_complete_eq_follow (traffic : Traffic ι α) (index : ι) :
    ∃ steps, traffic.complete index = traffic.follow (List.replicate steps index) := by
  generalize hrest : (traffic.passes index).rest = rest
  induction rest generalizing traffic with
  | done value =>
    refine ⟨0, ?_⟩
    unfold complete
    rw [Underway.complete_of_done hrest, Function.update_eq_self]
    rfl
  | call request next ih =>
    obtain ⟨steps, hsteps⟩ := ih (traffic.memory.answer request).1 (traffic.advance index) (by
      rw [passes_advance_self]
      simp [Underway.advance, hrest])
    exact ⟨steps + 1, by rw [← complete_advance, hsteps]; rfl⟩
  | announce notice next ih =>
    obtain ⟨steps, hsteps⟩ := ih (traffic.advance index) (by
      rw [passes_advance_self]
      simp [Underway.advance, hrest])
    exact ⟨steps + 1, by rw [← complete_advance, hsteps]; rfl⟩
  | log line next ih =>
    obtain ⟨steps, hsteps⟩ := ih (traffic.advance index) (by
      rw [passes_advance_self]
      simp [Underway.advance, hrest])
    exact ⟨steps + 1, by rw [← complete_advance, hsteps]; rfl⟩

/-- Running passes to their ends one after another is following a schedule. -/
theorem exists_inTurn_eq_follow (traffic : Traffic ι α) (order : List ι) :
    ∃ schedule, traffic.inTurn order = traffic.follow schedule := by
  induction order generalizing traffic with
  | nil => exact ⟨[], rfl⟩
  | cons first rest ih =>
    obtain ⟨steps, hsteps⟩ := traffic.exists_complete_eq_follow first
    obtain ⟨schedule, hschedule⟩ := ih (traffic.complete first)
    refine ⟨List.replicate steps first ++ schedule, ?_⟩
    rw [inTurn_cons, hschedule, hsteps, follow_append]

/-! ### Passes that keep to their teams -/

/-- Traffic in an orderly cluster, of passes that keep each to one team. -/
structure Tame (teams : ι → String) (traffic : Traffic ι α) : Prop where
  orderly : traffic.memory.Orderly
  confined : ∀ index, (traffic.passes index).rest.Confined (teams index)

omit [DecidableEq ι] in
theorem tame_begin {memory : Memory} {passes : ι → Pass α} {teams : ι → String}
    (horderly : memory.Orderly) (hconfined : ∀ index, (passes index).Confined (teams index)) :
    (begin memory passes).Tame teams where
  orderly := horderly
  confined := hconfined

omit [DecidableEq ι] in
theorem tame_ofRounds {memory : Memory} (horderly : memory.Orderly) (keys : ι → Key)
    (times : ι → Time.Instant) :
    (ofRounds memory keys times).Tame fun index ↦ (keys index).namespaceName :=
  tame_begin horderly fun index ↦ confined_reconcile (keys index) (times index)

namespace Tame

variable {teams : ι → String} {traffic : Traffic ι α}

theorem advance (htame : traffic.Tame teams) (index : ι) : (traffic.advance index).Tame teams where
  orderly := Underway.orderly_advance htame.orderly
  confined other := by
    by_cases hother : other = index
    · subst hother
      rw [passes_advance_self]
      exact Underway.confined_advance htame.orderly (htame.confined other)
    · rw [passes_advance_of_ne _ hother]
      exact htame.confined other

theorem follow (htame : traffic.Tame teams) (schedule : List ι) :
    (traffic.follow schedule).Tame teams := by
  induction schedule generalizing traffic with
  | nil => exact htame
  | cons first rest ih => exact ih (htame.advance first)

/-- What belongs to a team that no pass is about does not change. -/
theorem view_follow (htame : traffic.Tame teams) {team : String} (schedule : List ι)
    (hteam : ∀ index ∈ schedule, team ≠ teams index) :
    (traffic.follow schedule).memory.view team = traffic.memory.view team := by
  induction schedule generalizing traffic with
  | nil => rfl
  | cons first rest ih =>
    rw [follow_cons, ih (htame.advance first) fun index hindex ↦
      hteam index (List.mem_cons_of_mem first hindex)]
    exact Underway.view_advance_of_ne (htame.confined first) (hteam first List.mem_cons_self)

/-- Where no two passes are about the same team, each goes on as it would for its team on its
own. -/
theorem finish_follow (htame : traffic.Tame teams) (hteams : Function.Injective teams)
    (schedule : List ι) (index : ι) (versions : Nat → UInt64) :
    ∃ earlier, (traffic.passes index).finish ⟨traffic.memory.view (teams index), earlier⟩ =
      ((traffic.follow schedule).passes index).finish
        ⟨(traffic.follow schedule).memory.view (teams index), versions⟩ := by
  induction schedule generalizing traffic with
  | nil => exact ⟨versions, rfl⟩
  | cons first rest ih =>
    obtain ⟨later, hlater⟩ := ih (htame.advance first)
    rw [follow_cons, ← hlater]
    by_cases hfirst : index = first
    · subst hfirst
      rw [passes_advance_self]
      exact Underway.finish_advance (htame.confined index) later
    · have hview : (traffic.advance first).memory.view (teams index) =
          traffic.memory.view (teams index) :=
        Underway.view_advance_of_ne (htame.confined first) (hteams.ne hfirst)
      exact ⟨later, by rw [passes_advance_of_ne _ hfirst, hview]⟩

end Tame

end Traffic

/-- A confined pass that is run to its end in an orderly cluster leaves it orderly, changes nothing
for other teams, and does what it would do for its team on its own. -/
theorem Pass.run_memory {α : Type} {pass : Pass α} {team : String} {memory : Memory}
    (horderly : memory.Orderly) (hconfined : pass.Confined team) (versions : Nat → UInt64) :
    let run := pass.run Memory.environment memory
    run.state.Orderly ∧ (∀ other, other ≠ team → run.state.view other = memory.view other) ∧
      ∃ earlier, pass.run LoneTeam.environment ⟨memory.view team, earlier⟩ =
        ⟨run.result, run.happenings, ⟨run.state.view team, versions⟩⟩ := by
  intro run
  -- A single pass is traffic too, and running it to its end is following a schedule.
  let traffic : Traffic Unit α := .begin memory fun _ ↦ pass
  have htame : traffic.Tame fun _ ↦ team := Traffic.tame_begin horderly fun _ ↦ hconfined
  obtain ⟨steps, hsteps⟩ := traffic.exists_complete_eq_follow ()
  have hstate : (traffic.follow (List.replicate steps ())).memory = run.state := by
    rw [← hsteps]
    rfl
  have hpass : (traffic.follow (List.replicate steps ())).passes () =
      ⟨.done run.result, run.happenings⟩ := by
    rw [← hsteps]
    rfl
  refine ⟨?_, fun other hother ↦ ?_, ?_⟩
  · rw [← hstate]
    exact (htame.follow _).orderly
  · rw [← hstate]
    exact htame.view_follow _ fun _ _ ↦ hother
  · obtain ⟨earlier, hearlier⟩ := htame.finish_follow (fun _ _ _ ↦ rfl)
      (List.replicate steps ()) () versions
    rw [hpass, hstate] at hearlier
    exact ⟨earlier, hearlier.trans (Underway.finish_of_result? rfl _)⟩

end BlogOperator
