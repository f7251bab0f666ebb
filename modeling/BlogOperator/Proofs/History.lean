import BlogOperator.Proofs.Grounds
import BlogOperator.Proofs.Traffic

/-!
# Histories

While rounds are being made in a cluster, other things go on there: users apply, edit and delete
blogs, garbage is collected, faults come and go, and others make calls. A `Traffic.Event` is a step
of one of the passes or one of these operations, and `Traffic.through` is what a history, a list of
events in whatever order, makes of traffic. A pass of which a history says no more has been dropped.

What an event does is said here once: to the cluster by `Traffic.memory_undergo`, to what a pass has
exchanged with it by `Traffic.mem_exchanges_undergo`. Rounds stay `Traffic.Regular` through all
histories (`Traffic.Regular.through`): the cluster is one that can come about, everything that has
been found was under the key that was asked for, and what is left of each round keeps to its team
and is grounded in what it has exchanged so far.
-/

set_option autoImplicit false

namespace BlogOperator

open BlogOperator.Time

/-! ### What a pass has exchanged -/

namespace Underway

variable {α : Type}

/-- The exchanges of the pass so far, in order. -/
def exchanges (underway : Underway α) : List Exchange :=
  underway.past.filterMap Happening.exchange?

/-- A step of a pass is a call, or it is of no concern to the cluster. -/
theorem advance_cases (underway : Underway α) (memory : Memory) :
    (∃ request, underway.rest.request? = some request ∧
        (underway.advance memory).1.exchanges =
          underway.exchanges ++ [⟨request, (memory.answer request).1⟩] ∧
        (underway.advance memory).2 = (memory.answer request).2) ∨
      (underway.rest.request? = none ∧
        (underway.advance memory).1.exchanges = underway.exchanges ∧
        (underway.advance memory).2 = memory) := by
  obtain ⟨rest, past⟩ := underway
  cases rest with
  | done value => exact .inr ⟨rfl, rfl, rfl⟩
  | call request next => exact .inl ⟨request, rfl, by simp [exchanges, advance], rfl⟩
  | announce notice next => exact .inr ⟨rfl, by simp [exchanges, advance], rfl⟩
  | log line next => exact .inr ⟨rfl, by simp [exchanges, advance], rfl⟩

end Underway

/-! ### Events -/

namespace Traffic

variable {ι α : Type}

/-- Something that happens in a cluster while passes are being run against it. -/
inductive Event (ι : Type) where
  /-- One of the passes makes a step. -/
  | step (index : ι)
  /-- Something else is done to the cluster. -/
  | operation (operation : Memory.Operation)

variable [DecidableEq ι]

/-- Traffic after an event. -/
def undergo (traffic : Traffic ι α) : Event ι → Traffic ι α
  | .step index => traffic.advance index
  | .operation operation => { traffic with memory := traffic.memory.perform operation }

/-- Traffic after a history. -/
def through (traffic : Traffic ι α) (history : List (Event ι)) : Traffic ι α :=
  history.foldl undergo traffic

@[simp] theorem through_cons (traffic : Traffic ι α) (event : Event ι)
    (history : List (Event ι)) :
    traffic.through (event :: history) = (traffic.undergo event).through history := rfl

theorem through_append (traffic : Traffic ι α) (first second : List (Event ι)) :
    traffic.through (first ++ second) = (traffic.through first).through second :=
  List.foldl_append

theorem through_concat (traffic : Traffic ι α) (history : List (Event ι)) (event : Event ι) :
    traffic.through (history ++ [event]) = (traffic.through history).undergo event :=
  traffic.through_append history [event]

/-- What an event does to the cluster: nothing, an operation, or a call of one of the passes. -/
theorem memory_undergo (traffic : Traffic ι α) (event : Event ι) :
    (traffic.undergo event).memory = traffic.memory ∨
      (∃ operation, event = .operation operation ∧
        (traffic.undergo event).memory = traffic.memory.perform operation) ∨
      ∃ index request, event = .step index ∧
        (traffic.passes index).rest.request? = some request ∧
        (traffic.undergo event).memory = (traffic.memory.answer request).2 := by
  cases event with
  | operation operation => exact .inr (.inl ⟨operation, rfl, rfl⟩)
  | step index =>
    rcases (traffic.passes index).advance_cases traffic.memory with
      ⟨request, hrequest, -, hmemory⟩ | ⟨-, -, hmemory⟩
    · exact .inr (.inr ⟨index, request, rfl, hrequest, hmemory⟩)
    · exact .inl hmemory

/-- The step of a pass that is about to make a call does what the call does. -/
theorem step_of_request {traffic : Traffic ι α} {index : ι} {request : Call}
    (hrequest : (traffic.passes index).rest.request? = some request) :
    ((traffic.undergo (.step index)).passes index).exchanges =
        (traffic.passes index).exchanges ++ [⟨request, (traffic.memory.answer request).1⟩] ∧
      (traffic.undergo (.step index)).memory = (traffic.memory.answer request).2 := by
  simp only [undergo, passes_advance_self]
  rcases (traffic.passes index).advance_cases traffic.memory with
    ⟨other, hother, hexchanges, hmemory⟩ | ⟨hnone, -, -⟩
  · rw [hrequest] at hother
    cases hother
    exact ⟨hexchanges, hmemory⟩
  · rw [hrequest] at hnone
    cases hnone

/-- What a pass has exchanged after an event it had exchanged before, or it is the call that the
pass has just made. -/
theorem mem_exchanges_undergo {traffic : Traffic ι α} {event : Event ι} {index : ι}
    {exchange : Exchange}
    (hexchange : exchange ∈ ((traffic.undergo event).passes index).exchanges) :
    exchange ∈ (traffic.passes index).exchanges ∨
      (event = .step index ∧ ∃ request, (traffic.passes index).rest.request? = some request ∧
        exchange = ⟨request, (traffic.memory.answer request).1⟩) := by
  cases event with
  | operation operation => exact .inl hexchange
  | step other =>
    by_cases hother : index = other
    · subst hother
      simp only [undergo, passes_advance_self] at hexchange
      rcases (traffic.passes index).advance_cases traffic.memory with
        ⟨request, hrequest, hexchanges, -⟩ | ⟨-, hexchanges, -⟩
      · rw [hexchanges, List.mem_append, List.mem_singleton] at hexchange
        exact hexchange.imp_right fun hlast ↦ ⟨rfl, request, hrequest, hlast⟩
      · exact .inl (hexchanges ▸ hexchange)
    · simp only [undergo, passes_advance_of_ne _ hother] at hexchange
      exact .inl hexchange

/-- Nothing that has been exchanged is forgotten. -/
theorem exchanges_prefix_undergo (traffic : Traffic ι α) (event : Event ι) (index : ι) :
    (traffic.passes index).exchanges <+: ((traffic.undergo event).passes index).exchanges := by
  cases event with
  | operation operation => exact List.prefix_refl _
  | step other =>
    by_cases hother : index = other
    · subst hother
      simp only [undergo, passes_advance_self]
      rcases (traffic.passes index).advance_cases traffic.memory with
        ⟨request, -, hexchanges, -⟩ | ⟨-, hexchanges, -⟩
      · rw [hexchanges]
        exact List.prefix_append _ _
      · exact hexchanges ▸ List.prefix_refl _
    · simp only [undergo, passes_advance_of_ne _ hother]
      exact List.prefix_refl _

/-- What is left of a pass keeps a rule whatever event comes next, where the record tracks what
happens. -/
theorem keeps_undergo {η : Type} {growth : Growth η} {record : List Happening → η}
    {rule : η → Call → Prop} {ensured : η → α → Prop} {traffic : Traffic ι α} {index : ι}
    (htracks : growth.Tracks record traffic.memory)
    (hkeeps : (traffic.passes index).rest.Keeps growth rule ensured
      (record (traffic.passes index).past))
    (event : Event ι) :
    ((traffic.undergo event).passes index).rest.Keeps growth rule ensured
      (record ((traffic.undergo event).passes index).past) := by
  cases event with
  | operation operation => exact hkeeps
  | step other =>
    by_cases hother : index = other
    · subst hother
      simp only [undergo, passes_advance_self]
      exact Underway.keeps_advance htracks hkeeps
    · simp only [undergo, passes_advance_of_ne _ hother]
      exact hkeeps

theorem keeps_through {rule : List Exchange → Call → Prop} {ensured : List Exchange → α → Prop}
    {traffic : Traffic ι α} {index : ι}
    (hkeeps : (traffic.passes index).rest.Keeps .exchanges rule ensured
      (traffic.passes index).exchanges)
    (history : List (Event ι)) :
    ((traffic.through history).passes index).rest.Keeps .exchanges rule ensured
      ((traffic.through history).passes index).exchanges := by
  induction history generalizing traffic with
  | nil => exact hkeeps
  | cons event history ih => exact ih (keeps_undergo (Growth.tracks_exchanges _) hkeeps event)

/-- A pass that makes no step in a history stays as it is. -/
theorem passes_through_of_notMem {traffic : Traffic ι α} {history : List (Event ι)}
    {index : ι} (hidle : .step index ∉ history) :
    (traffic.through history).passes index = traffic.passes index := by
  induction history generalizing traffic with
  | nil => rfl
  | cons event history ih =>
    rw [through_cons, ih fun hlater ↦ hidle (List.mem_cons_of_mem event hlater)]
    cases event with
    | operation operation => rfl
    | step other =>
      have hother : index ≠ other := by
        rintro rfl
        exact hidle List.mem_cons_self
      exact traffic.passes_advance_of_ne hother

/-- Something holds of the cluster at all times in a history. -/
def Throughout (traffic : Traffic ι α) (history : List (Event ι)) (holds : Memory → Prop) :
    Prop :=
  ∀ past, past <+: history → holds (traffic.through past).memory

/-- All times in a history are the beginnings of it. -/
theorem throughout_iff {traffic : Traffic ι α} {history : List (Event ι)}
    {holds : Memory → Prop} :
    traffic.Throughout history holds ↔
      ∀ count ≤ history.length, holds (traffic.through (history.take count)).memory := by
  constructor
  · intro hthroughout count hcount
    exact hthroughout _ (List.take_prefix count history)
  · intro hbeginnings past hpast
    rw [List.prefix_iff_eq_take.1 hpast]
    exact hbeginnings past.length hpast.length_le

instance {traffic : Traffic ι α} {history : List (Event ι)} {holds : Memory → Prop}
    [DecidablePred holds] : Decidable (traffic.Throughout history holds) :=
  decidable_of_iff _ throughout_iff.symm

section Throughout

variable {traffic : Traffic ι α} {event : Event ι} {history : List (Event ι)}
  {holds : Memory → Prop}

theorem Throughout.start (hthroughout : traffic.Throughout history holds) :
    holds traffic.memory :=
  hthroughout [] List.nil_prefix

theorem Throughout.rest (hthroughout : traffic.Throughout (event :: history) holds) :
    (traffic.undergo event).Throughout history holds :=
  fun past hpast ↦ hthroughout (event :: past) (List.cons_prefix_cons.2 ⟨rfl, hpast⟩)

end Throughout

/-- Something holds of an event and of those before it, wherever there is an event in a history. -/
def Wherever (history : List (Event ι)) (holds : List (Event ι) → Event ι → Prop) : Prop :=
  ∀ past event, past ++ [event] <+: history → holds past event

omit [DecidableEq ι] in
/-- The events in a history are at its places. -/
theorem wherever_iff {history : List (Event ι)} {holds : List (Event ι) → Event ι → Prop} :
    Wherever history holds ↔
      ∀ place : Fin history.length, holds (history.take place) history[place] := by
  constructor
  · intro hwherever place
    refine hwherever (history.take place) history[place] ?_
    change history.take place ++ [history[place.val]] <+: history
    rw [List.take_append_getElem]
    exact List.take_prefix _ history
  · rintro hplaces past event ⟨rest, rfl⟩
    have hplace := hplaces ⟨past.length, by simp⟩
    simpa using hplace

instance {history : List (Event ι)} {holds : List (Event ι) → Event ι → Prop}
    [∀ past event, Decidable (holds past event)] : Decidable (Wherever history holds) :=
  decidable_of_iff _ wherever_iff.symm

/-- Something holds of the traffic and of the event whenever there is an event in a history. -/
def Whenever (traffic : Traffic ι α) (history : List (Event ι))
    (holds : Traffic ι α → Event ι → Prop) : Prop :=
  Wherever history fun past event ↦ holds (traffic.through past) event

instance {traffic : Traffic ι α} {history : List (Event ι)}
    {holds : Traffic ι α → Event ι → Prop} [∀ traffic event, Decidable (holds traffic event)] :
    Decidable (traffic.Whenever history holds) :=
  inferInstanceAs (Decidable (Wherever _ _))

section Whenever

variable {traffic : Traffic ι α} {event : Event ι} {history : List (Event ι)}
  {holds : Traffic ι α → Event ι → Prop}

theorem Whenever.start (hwhenever : traffic.Whenever (event :: history) holds) :
    holds traffic event :=
  hwhenever [] event (List.cons_prefix_cons.2 ⟨rfl, List.nil_prefix⟩)

theorem Whenever.rest (hwhenever : traffic.Whenever (event :: history) holds) :
    (traffic.undergo event).Whenever history holds :=
  fun past other hpast ↦ hwhenever (event :: past) other (List.cons_prefix_cons.2 ⟨rfl, hpast⟩)

end Whenever

/-! ### Rounds -/

/-- Traffic of rounds in a cluster that can come about, each of them confined to its team and
grounded in what it has exchanged so far. -/
structure Regular (keys : ι → Key) (times : ι → Instant)
    (traffic : Traffic ι (Except Failure Unit)) : Prop where
  reachable : traffic.memory.Reachable
  credible : ∀ {index exchange}, exchange ∈ (traffic.passes index).exchanges →
    exchange.request.Credible exchange.reply
  confined : ∀ index, (traffic.passes index).rest.Confined (keys index).namespaceName
  grounded : ∀ index, (traffic.passes index).rest.Grounded (keys index) (times index)
    (traffic.passes index).exchanges

variable {keys : ι → Key} {times : ι → Instant} {traffic : Traffic ι (Except Failure Unit)}

omit [DecidableEq ι] in
theorem regular_ofRounds {memory : Memory} (hreachable : memory.Reachable) (keys : ι → Key)
    (times : ι → Instant) : (ofRounds memory keys times).Regular keys times where
  reachable := hreachable
  credible hexchange := by cases hexchange
  confined index := confined_reconcile (keys index) (times index)
  grounded index := grounded_reconcile (keys index) (times index)

namespace Regular

theorem undergo (hregular : traffic.Regular keys times) (event : Event ι) :
    (traffic.undergo event).Regular keys times where
  reachable := by
    rcases traffic.memory_undergo event with
      hmemory | ⟨operation, -, hmemory⟩ | ⟨index, request, -, -, hmemory⟩
    · exact hmemory ▸ hregular.reachable
    · exact hmemory ▸ hregular.reachable.perform operation
    · exact hmemory ▸ hregular.reachable.perform (.call request)
  credible hexchange := by
    rcases mem_exchanges_undergo hexchange with hold | ⟨-, request, -, rfl⟩
    · exact hregular.credible hold
    · exact hregular.reachable.orderly.credible request
  confined index :=
    keeps_undergo hregular.reachable.orderly.tracks_credible (hregular.confined index) event
  grounded index := keeps_undergo (Growth.tracks_exchanges _) (hregular.grounded index) event

/-- Rounds stay regular whatever happens. -/
theorem through (hregular : traffic.Regular keys times) (history : List (Event ι)) :
    (traffic.through history).Regular keys times := by
  induction history generalizing traffic with
  | nil => exact hregular
  | cons event history ih => exact ih (hregular.undergo event)

end Regular

end Traffic

end BlogOperator
