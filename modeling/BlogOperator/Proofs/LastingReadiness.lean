import BlogOperator.Proofs.Ending
import BlogOperator.Proofs.Statuses
import Mathlib.Data.List.Induction

/-!
# Readiness lasts

When a round reports that its blog is ready, a condition comes into the list of the blog that no
later report takes out again. A round that fails reports on the child in question, under another
type. So the conditions of a blog say that it is ready (`Condition.SaysReady`) just when some round
for it has had this report accepted (`Traffic.SaidReady`), however later rounds have ended.

While blogs neither come nor go (`Traffic.Event.Settled`), that is kept by every event
(`Traffic.OnRecord.undergo`): it is an accepted report of readiness alone that makes a list say so
(`Traffic.Vouched.saysReady_undergo_iff`). A round that has failed has made no such report, since a
round ends as it has reported (`Traffic.not_saidReady_of_failed`). So it was another round that has
made a blog ready whose round has failed (`readiness_lasts`).
-/

set_option autoImplicit false

namespace BlogOperator

open BlogOperator.Time

/-! ### Lists that say that the blog is ready -/

namespace Condition

/-- The conditions say that the blog is ready. -/
def SaysReady (conditions : List Condition) : Prop :=
  ∃ condition ∈ conditions, condition.type = ghostReady ∧ condition.status = .holds

instance (conditions : List Condition) : Decidable (SaysReady conditions) := by
  unfold SaysReady
  infer_instance

/-- Putting a condition into a list neither adds nor removes one of another type. -/
theorem mem_upsert_of_ne {new condition : Condition} (htype : condition.type ≠ new.type)
    (conditions : List Condition) :
    condition ∈ upsert new conditions ↔ condition ∈ conditions := by
  have hfilter := filter_upsert new conditions
  have hmem : condition ∈ (upsert new conditions).filter (fun other ↦ other.type ≠ new.type) ↔
      condition ∈ conditions.filter fun other ↦ other.type ≠ new.type := by rw [hfilter]
  simpa [htype] using hmem

end Condition

theorem Setback.type_condition_ne (setback : Setback) (now : Instant) :
    Condition.ghostReady ≠ (setback.condition now).type := by
  change Condition.ghostReady ≠ setback.kind.notReady
  cases setback.kind <;> decide

/-- A list says that the blog is ready after a report just when it has said so before or the report
says so. -/
theorem saysReady_upsert_reportOf (verdict : Except Setback Unit) (now : Instant)
    (conditions : List Condition) :
    Condition.SaysReady (Condition.upsert (reportOf verdict now) conditions) ↔
      Condition.SaysReady conditions ∨ verdict = .ok () := by
  cases verdict with
  | ok =>
    have hfound := Condition.find?_upsert_self (readyCondition now) conditions
    have hready : Condition.SaysReady (Condition.upsert (readyCondition now) conditions) :=
      ⟨readyCondition now, List.mem_of_find?_eq_some hfound, rfl, rfl⟩
    exact iff_of_true hready (.inr rfl)
  | error setback =>
    have hmem {condition : Condition} (htype : condition.type = Condition.ghostReady) :
        condition ∈ Condition.upsert (setback.condition now) conditions ↔
          condition ∈ conditions :=
      Condition.mem_upsert_of_ne (htype ▸ setback.type_condition_ne now) conditions
    simp only [reduceCtorEq, or_false]
    constructor
    · rintro ⟨condition, hcondition, htype, hholds⟩
      exact ⟨condition, (hmem htype).1 hcondition, htype, hholds⟩
    · rintro ⟨condition, hcondition, htype, hholds⟩
      exact ⟨condition, (hmem htype).2 hcondition, htype, hholds⟩

/-- A status that is offered as a report of readiness does not report anything else. -/
theorem Ghost.eq_ok_of_statusWith_eq {ghost : Ghost} {verdict : Except Setback Unit}
    {now : Instant}
    (hsame : ghost.statusWith (readyCondition now) = ghost.statusWith (reportOf verdict now))
    (hdiffers : Condition.sameIgnoringTime ghost.statusOrEmpty.conditions
      (ghost.statusWith (readyCondition now)).conditions = false) :
    verdict = .ok () := by
  cases verdict with
  | ok => rfl
  | error setback =>
    -- The report of a setback leaves readiness as it was, so that it would have been on record.
    have hconditions := congrArg GhostStatus.conditions hsame
    have hfound : Condition.find? ghost.statusOrEmpty.conditions Condition.ghostReady =
        some (readyCondition now) :=
      calc Condition.find? ghost.statusOrEmpty.conditions Condition.ghostReady
          = Condition.find? (ghost.statusWith (setback.condition now)).conditions
              Condition.ghostReady :=
            (Condition.find?_upsert_of_ne (setback.type_condition_ne now) _).symm
        _ = Condition.find? (ghost.statusWith (readyCondition now)).conditions
              Condition.ghostReady := by rw [hconditions]; rfl
        _ = some (readyCondition now) := Condition.find?_upsert_self (readyCondition now) _
    have hrecorded := (Condition.sameIgnoringTime_upsert_iff (readyCondition now)
      ghost.statusOrEmpty.conditions).2 ⟨_, hfound, Condition.sameContent_self _⟩
    exact absurd hrecorded (Bool.eq_false_iff.1 hdiffers)

/-! ### Blogs stay -/

namespace Memory

variable {memory : Memory} {key : Key} {before : Ghost}

/-- A blog that is stored stays when one is edited. -/
theorem stays_edit (hbefore : memory.ghosts.find? key = some before) (place : Key)
    (change : GhostSpec → GhostSpec) :
    ∃ after, (memory.perform (.edit place change)).ghosts.find? key = some after := by
  rw [find?_perform_edit, hbefore]
  split
  · exact ⟨_, rfl⟩
  · exact ⟨before, rfl⟩

/-- A blog that is stored stays when a call is made. -/
theorem stays_answer (hbefore : memory.ghosts.find? key = some before) (request : Call) :
    ∃ after, (memory.answer request).2.ghosts.find? key = some after := by
  rcases memory.ghosts_answer request with hsame | ⟨_, _, _, rfl, -, -, hghosts⟩
  · rw [hsame]
    exact ⟨before, hbefore⟩
  · rw [hghosts, Shelf.find?_insert]
    split
    · exact ⟨_, rfl⟩
    · exact ⟨before, hbefore⟩

end Memory

namespace Traffic

/-! ### Reports of readiness -/

section SaidReady

variable {ι α : Type} [DecidableEq ι]

/-- A round has reported that its blog is ready, and the report has been accepted. -/
def SaidReady (times : ι → Instant) (traffic : Traffic ι α) (index : ι) : Prop :=
  ∃ ghost, ⟨.writeStatus ghost (ghost.statusWith (readyCondition (times index))), .ok ()⟩ ∈
    (traffic.passes index).exchanges

/-- An event is the step of a round in which its report that its blog is ready is accepted. -/
def BecomesReady (times : ι → Instant) (traffic : Traffic ι α) (event : Event ι) (index : ι) :
    Prop :=
  event = .step index ∧ ∃ ghost,
    (traffic.passes index).rest.request? =
      some (.writeStatus ghost (ghost.statusWith (readyCondition (times index)))) ∧
    (traffic.memory.answer (.writeStatus ghost
      (ghost.statusWith (readyCondition (times index))))).1 = .ok ()

/-- A round has had its report of readiness accepted before an event, or in it. -/
theorem saidReady_undergo_iff {times : ι → Instant} {traffic : Traffic ι α} {event : Event ι}
    {index : ι} :
    (traffic.undergo event).SaidReady times index ↔
      traffic.SaidReady times index ∨ traffic.BecomesReady times event index := by
  constructor
  · rintro ⟨ghost, hreport⟩
    rcases mem_exchanges_undergo hreport with hold | ⟨hevent, request, hrequest, hnew⟩
    · exact .inl ⟨ghost, hold⟩
    · obtain rfl := congrArg Exchange.request hnew
      exact .inr ⟨hevent, ghost, hrequest, by simpa using hnew.symm⟩
  · rintro (⟨ghost, hold⟩ | ⟨rfl, ghost, hrequest, haccepted⟩)
    · exact ⟨ghost, (traffic.exchanges_prefix_undergo event index).subset hold⟩
    · refine ⟨ghost, ?_⟩
      rw [(step_of_request hrequest).1, haccepted]
      exact List.mem_append_right _ List.mem_cons_self

/-- A round that has failed has not had a report of readiness accepted. -/
theorem not_saidReady_of_failed {memory : Memory} {keys : ι → Key} {times : ι → Instant}
    {history : List (Event ι)} {index : ι} {failure : Failure}
    (hfailed : (((ofRounds memory keys times).through history).passes index).result? =
      some (.error failure)) :
    ¬((ofRounds memory keys times).through history).SaidReady times index := by
  rintro ⟨ghost, hreport⟩
  obtain ⟨verdict, hsame, hdiffers, hresult⟩ := endsAsReported hfailed ghost _ _ hreport
  obtain rfl := Ghost.eq_ok_of_statusWith_eq hsame hdiffers
  cases hresult

end SaidReady

/-! ### Blogs that neither come nor go -/

variable {ι : Type}

/-- Blogs are neither applied nor deleted, and no one but the rounds writes a status. -/
def Event.Settled : Event ι → Prop
  | .operation (.apply _) => False
  | .operation (.delete _) => False
  | .operation (.call (.writeStatus _ _)) => False
  | _ => True

instance : (event : Event ι) → Decidable event.Settled
  | .operation (.apply _) | .operation (.delete _)
  | .operation (.call (.writeStatus _ _)) => .isFalse id
  | .step _ | .operation (.edit _ _) | .operation .collectGarbage | .operation (.setFault _ _)
  | .operation (.call (.readGhost _)) | .operation (.call (.find _ _))
  | .operation (.call (.change _)) => .isTrue trivial

theorem Event.Settled.statusFromRounds {event : Event ι} (hsettled : event.Settled) {α : Type}
    (traffic : Traffic ι α) : traffic.StatusFromRounds event := by
  unfold StatusFromRounds
  split
  · exact hsettled.elim
  · exact hsettled
  · trivial

variable [DecidableEq ι]

/-- While blogs neither come nor go, those that are stored stay. -/
theorem Event.Settled.stays {event : Event ι} (hsettled : event.Settled) {α : Type}
    {traffic : Traffic ι α} {key : Key} {before : Ghost}
    (hbefore : traffic.memory.ghosts.find? key = some before) :
    ∃ after, (traffic.undergo event).memory.ghosts.find? key = some after := by
  rcases traffic.memory_undergo event with
    hmemory | ⟨operation, rfl, hmemory⟩ | ⟨index, request, -, -, hmemory⟩
  · rw [hmemory]
    exact ⟨before, hbefore⟩
  · rw [hmemory]
    cases operation with
    | apply ghost => exact hsettled.elim
    | edit place change => exact Memory.stays_edit hbefore place change
    | delete place => exact hsettled.elim
    | collectGarbage => exact ⟨before, hbefore⟩
    | setFault name message => exact ⟨before, hbefore⟩
    | call request => exact Memory.stays_answer hbefore request
  · rw [hmemory]
    exact Memory.stays_answer hbefore request

/-- While blogs neither come nor go, those that are stored have been stored before. -/
theorem Regular.stored_before {keys : ι → Key} {times : ι → Instant}
    {traffic : Traffic ι (Except Failure Unit)} (hregular : traffic.Regular keys times)
    {event : Event ι} (hsettled : event.Settled) {key : Key} {after : Ghost}
    (hafter : (traffic.undergo event).memory.ghosts.find? key = some after) :
    ∃ before, traffic.memory.ghosts.find? key = some before := by
  rcases status_undergo hregular (hsettled.statusFromRounds traffic) hafter with
    ⟨before, hbefore, -⟩ | ⟨-, -, ghost, rfl⟩ | ⟨_, _, _, -, -, -, -, hbefore, -⟩
  · exact ⟨before, hbefore⟩
  · exact hsettled.elim
  · exact hbefore

/-! ### Readiness on record -/

variable {keys : ι → Key} {times : ι → Instant} {traffic : Traffic ι (Except Failure Unit)}

/-- The conditions of a blog that stays say that it is ready after an event just when they have said
so before, or a round has its report of readiness accepted. -/
theorem Vouched.saysReady_undergo_iff (hvouched : traffic.Vouched)
    (hregular : traffic.Regular keys times) {event : Event ι} (hsettled : event.Settled)
    {key : Key} {before after : Ghost}
    (hbefore : traffic.memory.ghosts.find? key = some before)
    (hafter : (traffic.undergo event).memory.ghosts.find? key = some after) :
    Condition.SaysReady after.statusOrEmpty.conditions ↔
      Condition.SaysReady before.statusOrEmpty.conditions ∨
        ∃ index, keys index = key ∧ traffic.BecomesReady times event index := by
  have hstays :=
    hvouched.status_of_stays hregular (hsettled.statusFromRounds traffic) hbefore hafter
  unfold Ghost.statusOrEmpty at *
  constructor
  · intro hready
    rcases hstays with hstatus | ⟨index, verdict, rfl, rfl, hreports, haccepted, hstatus⟩
    · rw [hstatus] at hready
      exact .inl hready
    · rw [hstatus] at hready
      rcases (saysReady_upsert_reportOf verdict (times index) _).1 hready with hold | rfl
      · exact .inl hold
      · exact .inr ⟨index, rfl, rfl, before, hreports.request, haccepted⟩
  · rintro (hold | ⟨index, rfl, rfl, ghost, hrequest, haccepted⟩)
    · rcases hstays with hstatus | ⟨index, verdict, -, -, -, -, hstatus⟩
      · rw [hstatus]
        exact hold
      · rw [hstatus]
        exact (saysReady_upsert_reportOf verdict (times index) _).2 (.inl hold)
    · obtain ⟨verdict, hsame, hreports⟩ := hregular.reports hrequest
      rw [hsame] at haccepted
      obtain ⟨-, ⟨other, hother, hstatus⟩, -⟩ := hvouched.revises hregular hreports haccepted
      rw [hafter] at hother
      cases hother
      rw [hstatus, ← hsame]
      exact (saysReady_upsert_reportOf (.ok ()) (times index) _).2 (.inr rfl)

/-- Traffic in which every blog that a round has read is stored, and in which the conditions of a
blog say that it is ready just when a round for it has had this report accepted. -/
structure OnRecord (keys : ι → Key) (times : ι → Instant)
    (traffic : Traffic ι (Except Failure Unit)) : Prop where
  found : ∀ {index key ghost},
    ⟨.readGhost key, .ok (some ghost)⟩ ∈ (traffic.passes index).exchanges →
      ∃ stored, traffic.memory.ghosts.find? key = some stored
  ready : ∀ {key stored}, traffic.memory.ghosts.find? key = some stored →
    (Condition.SaysReady stored.statusOrEmpty.conditions ↔
      ∃ index, keys index = key ∧ traffic.SaidReady times index)

omit [DecidableEq ι] in
/-- Where no blog has a status and no round has made a step, there is nothing on record. -/
theorem onRecord_of_bare
    (hbare : ∀ key ghost, traffic.memory.ghosts.find? key = some ghost → ghost.status = none)
    (hidle : ∀ index, (traffic.passes index).exchanges = []) : traffic.OnRecord keys times where
  found hread := by
    rw [hidle] at hread
    cases hread
  ready {key stored} hstored := by
    have hnone : ¬Condition.SaysReady stored.statusOrEmpty.conditions := by
      rw [Ghost.statusOrEmpty, hbare key stored hstored]
      rintro ⟨condition, hcondition, -⟩
      cases hcondition
    refine iff_of_false hnone ?_
    rintro ⟨index, -, ghost, hreport⟩
    rw [hidle] at hreport
    cases hreport

theorem OnRecord.undergo (hrecord : traffic.OnRecord keys times) (hvouched : traffic.Vouched)
    (hregular : traffic.Regular keys times) {event : Event ι} (hsettled : event.Settled) :
    (traffic.undergo event).OnRecord keys times where
  found {index key ghost} hread := by
    rcases mem_exchanges_undergo hread with hold | ⟨-, request, -, hnew⟩
    · obtain ⟨stored, hstored⟩ := hrecord.found hold
      exact hsettled.stays hstored
    · have hfinds := Exchange.Finds.ghost key ghost
      rw [hnew] at hfinds
      have hstored : traffic.memory.ghosts.find? key = some ghost := hfinds.find? rfl
      exact hsettled.stays hstored
  ready {key stored} hstored := by
    obtain ⟨before, hbefore⟩ := hregular.stored_before hsettled hstored
    rw [hvouched.saysReady_undergo_iff hregular hsettled hbefore hstored, hrecord.ready hbefore]
    simp only [saidReady_undergo_iff, and_or_left, exists_or]

/-- What is on record stays there through a history in which blogs neither come nor go. -/
theorem onRecord_through {setup : List Memory.Operation} {history : List (Event ι)}
    (hbare : ∀ key ghost,
      ((ofRounds {} keys times).through (setup.map .operation)).memory.ghosts.find? key =
        some ghost → ghost.status = none)
    (hsettled : ∀ event ∈ history, event.Settled)
    (hfew : (ofRounds {} keys times).bumps (setup.map .operation ++ history) < UInt64.size) :
    ((ofRounds {} keys times).through (setup.map .operation ++ history)).OnRecord keys times := by
  induction history using List.reverseRecOn with
  | nil =>
    rw [List.append_nil]
    refine onRecord_of_bare hbare fun index ↦ ?_
    rw [passes_through_of_notMem (by simp)]
    rfl
  | append_singleton past event ih =>
    rw [← List.append_assoc] at hfew ⊢
    have hfew' : (ofRounds {} keys times).bumps (setup.map .operation ++ past) < UInt64.size :=
      Nat.lt_of_le_of_lt (bumps_mono _ (List.prefix_append _ [event])) hfew
    rw [through_concat]
    exact (ih (fun other hother ↦ hsettled other (List.mem_append_left _ hother)) hfew').undergo
      (.ofRounds hfew') ((regular_ofRounds .empty keys times).through _)
      (hsettled event (List.mem_append_right _ List.mem_cons_self))

end Traffic

/-- Assumes: blogs have been set up without a status, then they are neither applied nor deleted,
and no one but the rounds writes a status, and there are not so many writes that their numbers run
over; all else may happen in any order.

A round that has read its blog and has failed has no part in whether the conditions of the blog say
that it is ready: the blog is stored, and they say so just when another round for it has had this
report accepted. -/
theorem readiness_lasts {ι : Type} [DecidableEq ι] (keys : ι → Key) (times : ι → Instant)
    {setup : List Memory.Operation} {history : List (Traffic.Event ι)}
    (hbare : ∀ key ghost,
      ((Traffic.ofRounds {} keys times).through (setup.map .operation)).memory.ghosts.find? key =
        some ghost → ghost.status = none)
    (hsettled : ∀ event ∈ history, event.Settled)
    (hfew : (Traffic.ofRounds {} keys times).bumps (setup.map .operation ++ history) <
      UInt64.size)
    (index : ι) {ghost : Ghost} {failure : Failure} :
    let traffic := (Traffic.ofRounds {} keys times).through (setup.map .operation ++ history)
    BeganWith (keys index) ghost (traffic.passes index).exchanges →
      (traffic.passes index).result? = some (.error failure) →
      ∃ stored, traffic.memory.ghosts.find? (keys index) = some stored ∧
        (Condition.SaysReady stored.statusOrEmpty.conditions ↔
          ∃ other ≠ index, keys other = keys index ∧ traffic.SaidReady times other) := by
  intro traffic hbegan hfailed
  have hrecord : traffic.OnRecord keys times := Traffic.onRecord_through hbare hsettled hfew
  obtain ⟨stored, hstored⟩ := hrecord.found hbegan.mem
  refine ⟨stored, hstored, ?_⟩
  rw [hrecord.ready hstored]
  constructor
  · rintro ⟨other, hkey, hreported⟩
    refine ⟨other, ?_, hkey, hreported⟩
    rintro rfl
    exact Traffic.not_saidReady_of_failed hfailed hreported
  · rintro ⟨other, -, hkey, hreported⟩
    exact ⟨other, hkey, hreported⟩

/-- A round cannot create the deployment and fails. When it can be created, another round makes the
blog ready. -/
theorem readiness_lasts_marketing :
    let ghost : Ghost := {
      metadata := { name := some "blog", namespaceName := some "marketing" }
      spec := ⟨"5", 1, false⟩ }
    let keys (_ : Bool) : Key := ⟨"marketing", "blog"⟩
    let setup : List Memory.Operation := [.apply ghost]
    let history : List (Traffic.Event Bool) :=
      [.operation (.setFault (.create .deployment) (some "exceeded quota"))] ++
        List.replicate 12 (.step false) ++
        [.operation (.setFault (.create .deployment) none)] ++ List.replicate 16 (.step true)
    let rounds := Traffic.ofRounds {} keys fun _ ↦ .epoch
    let traffic := rounds.through (setup.map .operation ++ history)
    (∀ key ghost, (rounds.through (setup.map .operation)).memory.ghosts.find? key = some ghost →
      ghost.status = none) ∧
      (∀ event ∈ history, event.Settled) ∧
      rounds.bumps (setup.map .operation ++ history) < UInt64.size ∧
      (traffic.passes false).result? = some (.error (.api "exceeded quota")) ∧
      ∃ stored, traffic.memory.ghosts.find? (keys false) = some stored ∧
        Condition.SaysReady stored.statusOrEmpty.conditions := by
  intro ghost keys setup history rounds traffic
  have hbare : ∀ key ghost,
      (rounds.through (setup.map .operation)).memory.ghosts.find? key = some ghost →
        ghost.status = none := by
    have hentries :
        ∀ entry ∈ (rounds.through (setup.map .operation)).memory.ghosts.entries,
          entry.2.status = none := by decide +kernel
    intro key ghost hghost
    exact hentries (key, ghost) (Shelf.mem_entries_iff.2 hghost)
  have hsettled : ∀ event ∈ history, event.Settled := by decide +kernel
  have hfew : rounds.bumps (setup.map .operation ++ history) < UInt64.size :=
    Nat.lt_of_le_of_lt (rounds.bumps_le_length _) (by decide)
  refine ⟨hbare, hsettled, hfew, ?_⟩
  -- The rounds are worked out only once they are written out.
  dsimp only [traffic, rounds, history, setup, keys, ghost] at hbare hsettled hfew ⊢
  obtain ⟨stored, hstored, hready⟩ :=
    readiness_lasts (fun _ ↦ _) (fun _ ↦ .epoch) hbare hsettled hfew false rfl rfl
  exact ⟨rfl, stored, hstored, hready.2 ⟨true, by decide, rfl, _, List.mem_of_getLast? rfl⟩⟩

/-- A round has found all children in place and has made the blog ready, when the blog is edited and
deployments cannot be replaced any more. Another round fails on the deployment, and its report is
accepted. The conditions go on to say that the blog is ready. -/
theorem ready_outlives_failure :
    let ghost : Ghost := {
      metadata := { name := some "blog", namespaceName := some "marketing" }
      spec := ⟨"5", 1, false⟩ }
    let keys (_ : Bool) : Key := ⟨"marketing", "blog"⟩
    let setup : List Memory.Operation := [.apply ghost]
    let history : List (Traffic.Event Bool) :=
      List.replicate 18 (.step false) ++
        [.operation (.edit (keys true) fun spec ↦ { spec with replicas := 2 }),
          .operation (.setFault .replace (some "exceeded quota"))] ++
        List.replicate 8 (.step true)
    let rounds := Traffic.ofRounds {} keys fun _ ↦ .epoch
    let traffic := rounds.through (setup.map .operation ++ history)
    (∀ entry ∈ (rounds.through (setup.map .operation)).memory.ghosts.entries,
      entry.2.status = none) ∧
      (∀ event ∈ history, event.Settled) ∧
      (traffic.passes true).result? = some (.error (.api "exceeded quota")) ∧
      (∃ deployment, ⟨.change (.replace deployment), .error (.api "exceeded quota")⟩ ∈
        (traffic.passes true).exchanges) ∧
      (∃ ghost status, ⟨.writeStatus ghost status, .ok ()⟩ ∈ (traffic.passes true).exchanges) ∧
      Condition.SaysReady (traffic.memory.status (keys true)).conditions := by
  intro ghost keys setup history rounds traffic
  have hready : Condition.SaysReady (traffic.memory.status (keys true)).conditions := by
    decide +kernel
  refine ⟨by decide +kernel, by decide +kernel, ?_⟩
  -- The rounds are worked out only once they are written out.
  dsimp only [traffic, rounds, history, setup, keys, ghost] at hready ⊢
  exact ⟨rfl, ⟨_, List.mem_iff_getElem?.2 ⟨3, rfl⟩⟩, ⟨_, _, List.mem_of_getLast? rfl⟩, hready⟩

end BlogOperator
