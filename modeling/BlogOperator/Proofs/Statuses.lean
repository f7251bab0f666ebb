import BlogOperator.Proofs.LostUpdates
import BlogOperator.Proofs.ConditionMap

/-!
# Conditions over time

Rounds are the only ones to write statuses, and blogs come without one (`Traffic.StatusFromRounds`).
Every list of conditions that is stored is then `Condition.WellKept`: it has at most one condition
of a type, and no others than those that rounds report. That is kept by putting a condition into a
list (`Condition.WellKept.upsert`), and so by every event (`Traffic.Kept.undergo`): what a round
offers is the list that it has read with one condition put into it.

An accepted report does more than to stamp a condition anew. The list is `Condition.Revised`: one
condition is added at the end, or one is rewritten and says something else than before. Since a
round offers a status for the very blog that is stored, the list that it revises is the stored one
(`Traffic.Vouched.conditions_undergo`). Both are put together in `conditions_revised`.
-/

set_option autoImplicit false

namespace BlogOperator

open BlogOperator.Kubernetes BlogOperator.Time

/-! ### Lists of conditions -/

namespace Condition

/-- The types of the conditions that rounds report. -/
def reportedTypes : List String :=
  ["GhostReady", "PVCNotReady", "DeploymentNotReady", "ServiceNotReady", "IngressNotReady"]

/-- A list with at most one condition of a type, and with conditions of reported types only. -/
structure WellKept (conditions : List Condition) : Prop where
  distinct : (conditions.map Condition.type).Nodup
  known : ∀ condition ∈ conditions, condition.type ∈ reportedTypes

theorem wellKept_nil : WellKept [] where
  distinct := List.nodup_nil
  known condition hcondition := by cases hcondition

/-- A list stays well kept when a condition of a reported type is put into it. -/
theorem WellKept.upsert {conditions : List Condition} (hkept : WellKept conditions)
    {new : Condition} (hnew : new.type ∈ reportedTypes) :
    WellKept (Condition.upsert new conditions) where
  distinct := nodup_upsert hkept.distinct new
  known condition hcondition := by
    rcases eq_or_mem_of_mem_upsert hcondition with rfl | hold
    · exact hnew
    · exact hkept.known condition hold

/-- One condition says something else than another, whatever their times. -/
def SaysOtherwise (new old : Condition) : Prop :=
  new.status ≠ old.status ∨ new.reason ≠ old.reason ∨ new.message ≠ old.message

/-- What becomes of a list in which one condition is reported at an instant: the condition is added
at the end where there is none of its type, or it takes the place of one that says something else.
All other conditions stay as they are. -/
inductive Revised (now : Instant) : List Condition → List Condition → Prop
  | added {conditions : List Condition} {new : Condition}
      (hnone : ∀ condition ∈ conditions, condition.type ≠ new.type)
      (htime : new.lastTransitionTime = now.text) :
      Revised now conditions (conditions ++ [new])
  | rewritten {before after : List Condition} {old new : Condition}
      (htype : new.type = old.type) (hcontent : new.SaysOtherwise old)
      (htime : new.lastTransitionTime = now.text) :
      Revised now (before ++ old :: after) (before ++ new :: after)

/-- Putting a condition into a list revises the list, unless it changes nothing but times. -/
theorem revised_upsert {now : Instant} {new : Condition} {conditions : List Condition}
    (htime : new.lastTransitionTime = now.text)
    (hdiffers : sameIgnoringTime conditions (upsert new conditions) = false) :
    Revised now conditions (upsert new conditions) := by
  have hunrecorded : ¬∃ old, find? conditions new.type = some old ∧ old.sameContent new := by
    rw [← sameIgnoringTime_upsert_iff, hdiffers]
    exact Bool.false_ne_true
  have hput := putInto_upsert new conditions
  generalize upsert new conditions = revised at hput ⊢
  cases hput with
  | added conditions hnone => exact .added hnone htime
  | @replaced old before after htype hfirst =>
    refine .rewritten htype.symm ?_ htime
    by_contra hsame
    simp only [SaysOtherwise, not_or, not_not] at hsame
    obtain ⟨hstatus, hreason, hmessage⟩ := hsame
    exact hunrecorded ⟨old, find?_append_cons hfirst htype,
      sameContent_iff.2 ⟨htype, hstatus.symm, hreason.symm, hmessage.symm⟩⟩

/-- In a list that is revised, a condition stays as it was, or it says something else and bears the
instant. -/
theorem Revised.find? {now : Instant} {before after : List Condition}
    (hrevised : Revised now before after) {type : String} {old new : Condition}
    (hold : Condition.find? before type = some old)
    (hnew : Condition.find? after type = some new) :
    new = old ∨ (new.SaysOtherwise old ∧ new.lastTransitionTime = now.text) := by
  cases hrevised with
  | added hnone htime =>
    rw [Condition.find?, List.find?_append, ← Condition.find?, hold] at hnew
    exact .inl (Option.some.inj hnew).symm
  | @rewritten before after replaced replacing htype hcontent htime =>
    simp only [Condition.find?, List.find?_append, List.find?_cons, htype] at hold hnew
    cases hbefore : before.find? fun condition ↦ decide (condition.type = type) with
    | some condition =>
      rw [hbefore] at hold hnew
      exact .inl (Option.some.inj (hnew.symm.trans hold))
    | none =>
      rw [hbefore, Option.none_or] at hold hnew
      by_cases hreplaced : replaced.type = type
      · simp only [hreplaced, decide_true] at hold hnew
        cases hold
        cases hnew
        exact .inr ⟨hcontent, htime⟩
      · simp only [hreplaced, decide_false] at hold hnew
        exact .inl (Option.some.inj (hnew.symm.trans hold))

end Condition

theorem type_reportOf_mem (verdict : Except Setback Unit) (now : Instant) :
    (reportOf verdict now).type ∈ Condition.reportedTypes := by
  cases verdict with
  | error setback =>
    change setback.kind.notReady ∈ Condition.reportedTypes
    cases setback.kind <;> decide
  | ok =>
    change Condition.ghostReady ∈ Condition.reportedTypes
    decide

/-- What a round offers for a blog whose conditions are well kept is well kept. -/
theorem Ghost.wellKept_statusWith {ghost : Ghost}
    (hkept : Condition.WellKept ghost.statusOrEmpty.conditions) (verdict : Except Setback Unit)
    (now : Instant) : Condition.WellKept (ghost.statusWith (reportOf verdict now)).conditions :=
  hkept.upsert (type_reportOf_mem verdict now)

/-! ### Blogs after an operation -/

/-- Where a blog has its status from after an operation other than the offer of a status: it had
the status before, or it has been applied with it where there was no blog. -/
theorem Memory.status_perform {memory : Memory} {operation : Memory.Operation}
    (hquiet : ∀ ghost status, operation ≠ .call (.writeStatus ghost status)) {key : Key}
    {after : Ghost} (hafter : (memory.perform operation).ghosts.find? key = some after) :
    (∃ before, memory.ghosts.find? key = some before ∧ after.status = before.status) ∨
      ∃ ghost, operation = .apply ghost ∧ Key.ofMetadata ghost.metadata = key ∧
        memory.ghosts.find? key = none ∧ after.status = ghost.status := by
  cases operation with
  | apply ghost =>
    rw [find?_perform_apply] at hafter
    by_cases hkey : key = Key.ofMetadata ghost.metadata
    · rw [if_pos hkey] at hafter
      cases hafter
      subst hkey
      dsimp only [admitted]
      cases hstored : memory.ghosts.find? (Key.ofMetadata ghost.metadata) with
      | some stored => exact .inl ⟨stored, rfl, rfl⟩
      | none => exact .inr ⟨ghost, rfl, rfl, rfl, rfl⟩
    · rw [if_neg hkey] at hafter
      exact .inl ⟨after, hafter, rfl⟩
  | edit place change =>
    rw [find?_perform_edit] at hafter
    split at hafter
    · obtain ⟨stored, hstored, rfl⟩ := Option.map_eq_some_iff.1 hafter
      exact .inl ⟨stored, hstored, rfl⟩
    · exact .inl ⟨after, hafter, rfl⟩
  | delete place =>
    exact .inl ⟨after, find?_of_delete hafter, rfl⟩
  | collectGarbage => exact .inl ⟨after, hafter, rfl⟩
  | setFault name message => exact .inl ⟨after, hafter, rfl⟩
  | call request =>
    rcases memory.ghosts_answer request with hsame | ⟨ghost, status, -, rfl, -⟩
    · change (memory.answer request).2.ghosts.find? key = some after at hafter
      rw [hsame] at hafter
      exact .inl ⟨after, hafter, rfl⟩
    · exact absurd rfl (hquiet ghost status)

/-! ### Reports -/

namespace Traffic

variable {ι α : Type}

/-- No one but the rounds writes a status: where there is no blog, one is applied without a status,
and no one else makes the call. -/
def StatusFromRounds (traffic : Traffic ι α) : Event ι → Prop
  | .operation (.apply ghost) =>
    traffic.memory.ghosts.find? (Key.ofMetadata ghost.metadata) = none → ghost.status = none
  | .operation (.call (.writeStatus _ _)) => False
  | _ => True

instance (traffic : Traffic ι α) (event : Event ι) :
    Decidable (traffic.StatusFromRounds event) := by
  unfold StatusFromRounds
  split <;> infer_instance

/-- A round is about to report its verdict on the blog that it has read. -/
structure Reports (keys : ι → Key) (times : ι → Instant) (traffic : Traffic ι α) (index : ι)
    (ghost : Ghost) (verdict : Except Setback Unit) : Prop where
  began : BeganWith (keys index) ghost (traffic.passes index).exchanges
  request : (traffic.passes index).rest.request? =
    some (.writeStatus ghost (ghost.statusWith (reportOf verdict (times index))))
  differs : Condition.sameIgnoringTime ghost.statusOrEmpty.conditions
    (ghost.statusWith (reportOf verdict (times index))).conditions = false

variable {keys : ι → Key} {times : ι → Instant} {traffic : Traffic ι (Except Failure Unit)}

/-- Whatever status a round offers, it reports a verdict on the blog that it has read. -/
theorem Regular.reports (hregular : traffic.Regular keys times) {index : ι} {ghost : Ghost}
    {status : GhostStatus}
    (hrequest : (traffic.passes index).rest.request? = some (.writeStatus ghost status)) :
    ∃ verdict, status = ghost.statusWith (reportOf verdict (times index)) ∧
      traffic.Reports keys times index ghost verdict := by
  obtain ⟨hbegan, hdiffers, verdict, rfl⟩ := (hregular.grounded index).request hrequest
  exact ⟨verdict, rfl, hbegan, hrequest, hdiffers⟩

variable [DecidableEq ι]

/-- Where a blog has its status from after an event: it had the status before, or it has just been
applied and has none, or a round has just reported on it. -/
theorem status_undergo (hregular : traffic.Regular keys times) {event : Event ι}
    (hrounds : traffic.StatusFromRounds event) {key : Key} {after : Ghost}
    (hafter : (traffic.undergo event).memory.ghosts.find? key = some after) :
    (∃ before, traffic.memory.ghosts.find? key = some before ∧ after.status = before.status) ∨
      (traffic.memory.ghosts.find? key = none ∧ after.status = none ∧
        ∃ ghost, event = .operation (.apply ghost)) ∨
      ∃ index ghost verdict, event = .step index ∧ keys index = key ∧
        traffic.Reports keys times index ghost verdict ∧
        (traffic.memory.answer (.writeStatus ghost
          (ghost.statusWith (reportOf verdict (times index))))).1 = .ok () ∧
        (∃ before, traffic.memory.ghosts.find? key = some before) ∧
        after.status = some (ghost.statusWith (reportOf verdict (times index))) := by
  rcases traffic.memory_undergo event with
    hmemory | ⟨operation, rfl, hmemory⟩ | ⟨index, request, rfl, hrequest, hmemory⟩
  · rw [hmemory] at hafter
    exact .inl ⟨after, hafter, rfl⟩
  · rw [hmemory] at hafter
    have hquiet : ∀ ghost status, operation ≠ .call (.writeStatus ghost status) := by
      rintro ghost status rfl
      exact hrounds
    rcases Memory.status_perform hquiet hafter with hbefore | ⟨ghost, rfl, rfl, hnone, hstatus⟩
    · exact .inl hbefore
    · exact .inr (.inl ⟨hnone, hstatus.trans (hrounds hnone), ghost, rfl⟩)
  · rw [hmemory] at hafter
    rcases traffic.memory.ghosts_answer request with
      hsame | ⟨ghost, status, stored, rfl, haccepted, hstored, hghosts⟩
    · rw [hsame] at hafter
      exact .inl ⟨after, hafter, rfl⟩
    · obtain ⟨verdict, rfl, hreports⟩ := hregular.reports hrequest
      have hkey : Key.ofMetadata ghost.metadata = keys index :=
        hregular.credible hreports.began.mem ghost rfl
      rw [hghosts, Shelf.find?_insert] at hafter
      by_cases hsame : key = Key.ofMetadata ghost.metadata
      · rw [if_pos hsame] at hafter
        cases hafter
        subst hsame
        exact .inr (.inr ⟨index, ghost, verdict, rfl, hkey.symm, hreports, haccepted,
          ⟨stored, hstored⟩, rfl⟩)
      · rw [if_neg hsame] at hafter
        exact .inl ⟨after, hafter, rfl⟩

/-! ### Blogs with well-kept conditions -/

/-- Traffic in which all conditions are well kept, those of blogs that are stored and those of blogs
that have been read. -/
structure Kept (traffic : Traffic ι α) : Prop where
  stored : ∀ {key ghost}, traffic.memory.ghosts.find? key = some ghost →
    Condition.WellKept ghost.statusOrEmpty.conditions
  read : ∀ {index key ghost},
    ⟨.readGhost key, .ok (some ghost)⟩ ∈ (traffic.passes index).exchanges →
      Condition.WellKept ghost.statusOrEmpty.conditions

omit [DecidableEq ι] in
theorem kept_ofRounds (keys : ι → Key) (times : ι → Instant) :
    (ofRounds {} keys times).Kept where
  stored hstored := by cases hstored
  read hread := by cases hread

theorem Kept.undergo (hkept : traffic.Kept) (hregular : traffic.Regular keys times)
    {event : Event ι} (hrounds : traffic.StatusFromRounds event) :
    (traffic.undergo event).Kept where
  stored {key after} hafter := by
    unfold Ghost.statusOrEmpty
    rcases status_undergo hregular hrounds hafter with
      ⟨before, hbefore, hstatus⟩ | ⟨-, hstatus, -⟩ |
        ⟨index, ghost, verdict, -, -, hreports, -, -, hstatus⟩
    · rw [hstatus]
      exact hkept.stored hbefore
    · rw [hstatus]
      exact Condition.wellKept_nil
    · rw [hstatus]
      exact Ghost.wellKept_statusWith (hkept.read hreports.began.mem) verdict (times index)
  read {index key ghost} hread := by
    rcases mem_exchanges_undergo hread with hold | ⟨-, request, -, hnew⟩
    · exact hkept.read hold
    · have hfinds := Exchange.Finds.ghost key ghost
      rw [hnew] at hfinds
      exact hkept.stored (hfinds.find? rfl)

/-- Conditions stay well kept through a history in which the rounds alone write statuses. -/
theorem Kept.through (hkept : traffic.Kept) (hregular : traffic.Regular keys times)
    {history : List (Event ι)} (hrounds : traffic.Whenever history StatusFromRounds) :
    (traffic.through history).Kept := by
  induction history generalizing traffic with
  | nil => exact hkept
  | cons event history ih =>
    exact ih (hkept.undergo hregular hrounds.start) (hregular.undergo event) hrounds.rest

/-! ### What becomes of the conditions of a blog -/

namespace Vouched

/-- A report that is accepted revises the conditions of the blog that is stored. -/
theorem revises (hvouched : traffic.Vouched) (hregular : traffic.Regular keys times) {index : ι}
    {ghost : Ghost} {verdict : Except Setback Unit}
    (hreports : traffic.Reports keys times index ghost verdict)
    (haccepted : (traffic.memory.answer (.writeStatus ghost
      (ghost.statusWith (reportOf verdict (times index))))).1 = .ok ()) :
    traffic.memory.ghosts.find? (keys index) = some ghost ∧
      (∃ after,
        (traffic.undergo (.step index)).memory.ghosts.find? (keys index) = some after ∧
          after.status = some (ghost.statusWith (reportOf verdict (times index)))) ∧
      Condition.Revised (times index) ghost.statusOrEmpty.conditions
        (ghost.statusWith (reportOf verdict (times index))).conditions := by
  obtain ⟨-, haccepts, hstores⟩ := hvouched.status hregular hreports.request
  obtain ⟨version, hafter⟩ := hstores haccepted
  rw [← (step_of_request hreports.request).2] at hafter
  refine ⟨(haccepts.1 haccepted).2, ⟨_, hafter, rfl⟩, ?_⟩
  exact Condition.revised_upsert (lastTransitionTime_reportOf verdict _) hreports.differs

/-- A blog that stays keeps its status in an event, or a round has just reported on it. -/
theorem status_of_stays (hvouched : traffic.Vouched) (hregular : traffic.Regular keys times)
    {event : Event ι} (hrounds : traffic.StatusFromRounds event) {key : Key}
    {before after : Ghost} (hbefore : traffic.memory.ghosts.find? key = some before)
    (hafter : (traffic.undergo event).memory.ghosts.find? key = some after) :
    after.status = before.status ∨
      ∃ index verdict, event = .step index ∧ keys index = key ∧
        traffic.Reports keys times index before verdict ∧
        (traffic.memory.answer (.writeStatus before
          (before.statusWith (reportOf verdict (times index))))).1 = .ok () ∧
        after.status = some (before.statusWith (reportOf verdict (times index))) := by
  rcases status_undergo hregular hrounds hafter with
    ⟨other, hother, hstatus⟩ | ⟨hnone, -⟩ |
      ⟨index, ghost, verdict, hevent, rfl, hreports, haccepted, -, hstatus⟩
  · rw [hbefore] at hother
    cases hother
    exact .inl hstatus
  · rw [hbefore] at hnone
    cases hnone
  · obtain ⟨hghost, -⟩ := hvouched.revises hregular hreports haccepted
    rw [hbefore] at hghost
    cases hghost
    exact .inr ⟨index, verdict, hevent, rfl, hreports, haccepted, hstatus⟩

/-- The conditions of a blog that stays are left alone by an event, or a round has revised them. -/
theorem conditions_undergo (hvouched : traffic.Vouched) (hregular : traffic.Regular keys times)
    {event : Event ι} (hrounds : traffic.StatusFromRounds event) {key : Key}
    {before after : Ghost} (hbefore : traffic.memory.ghosts.find? key = some before)
    (hafter : (traffic.undergo event).memory.ghosts.find? key = some after) :
    after.statusOrEmpty.conditions = before.statusOrEmpty.conditions ∨
      ∃ index, event = .step index ∧ keys index = key ∧
        Condition.Revised (times index) before.statusOrEmpty.conditions
          after.statusOrEmpty.conditions := by
  rcases hvouched.status_of_stays hregular hrounds hbefore hafter with
    hstatus | ⟨index, verdict, hevent, rfl, hreports, haccepted, hstatus⟩
  · unfold Ghost.statusOrEmpty
    rw [hstatus]
    exact .inl rfl
  · obtain ⟨-, -, hrevised⟩ := hvouched.revises hregular hreports haccepted
    refine .inr ⟨index, hevent, rfl, ?_⟩
    have hconditions : after.statusOrEmpty.conditions =
        (before.statusWith (reportOf verdict (times index))).conditions := by
      rw [Ghost.statusOrEmpty, hstatus]
      rfl
    rw [hconditions]
    exact hrevised

end Vouched

end Traffic

/-- Blogs come without a status, and the rounds alone write statuses; all else may happen in any
order, and the clock may show the rounds any times.

Then every blog has at most one condition of each type, and no others than the five that rounds
report. And as long as the number of writes does not run over, an accepted status adds one
condition at the end or rewrites one in place, so that it says something else than before, and
leaves all others as they are. Nothing else changes the conditions of a blog, and so the time of a
condition changes only with its content, to the time of the round that has reported it. -/
theorem conditions_revised {ι : Type} [DecidableEq ι] (keys : ι → Key) (times : ι → Instant)
    {history : List (Traffic.Event ι)}
    (hrounds : (Traffic.ofRounds {} keys times).Whenever history Traffic.StatusFromRounds) :
    let rounds := Traffic.ofRounds {} keys times
    (∀ key ghost, (rounds.through history).memory.ghosts.find? key = some ghost →
      (ghost.statusOrEmpty.conditions.map Condition.type).Nodup ∧
        ∀ condition ∈ ghost.statusOrEmpty.conditions, condition.type ∈
          ["GhostReady", "PVCNotReady", "DeploymentNotReady", "ServiceNotReady",
            "IngressNotReady"]) ∧
      (rounds.bumps history < UInt64.size → rounds.Whenever history fun traffic event ↦
        let memory := traffic.memory
        let later := (traffic.undergo event).memory
        (∀ index ghost status, event = .step index →
          (traffic.passes index).rest.request? = some (.writeStatus ghost status) →
          (memory.answer (.writeStatus ghost status)).1 = .ok () →
          ∃ before after, memory.ghosts.find? (keys index) = some before ∧
            later.ghosts.find? (keys index) = some after ∧ after.status = some status ∧
            Condition.Revised (times index) before.statusOrEmpty.conditions
              status.conditions) ∧
        ∀ key before after, memory.ghosts.find? key = some before →
          later.ghosts.find? key = some after →
          (after.statusOrEmpty.conditions = before.statusOrEmpty.conditions ∨
            ∃ index, event = .step index ∧ keys index = key ∧
              Condition.Revised (times index) before.statusOrEmpty.conditions
                after.statusOrEmpty.conditions) ∧
          ∀ type old new, Condition.find? before.statusOrEmpty.conditions type = some old →
            Condition.find? after.statusOrEmpty.conditions type = some new →
            new.lastTransitionTime ≠ old.lastTransitionTime →
            new.SaysOtherwise old ∧ ∃ index, event = .step index ∧ keys index = key ∧
              new.lastTransitionTime = (times index).text) := by
  intro rounds
  have hstart : rounds.Regular keys times := Traffic.regular_ofRounds .empty keys times
  constructor
  · intro key ghost hghost
    have hkept := (Traffic.kept_ofRounds keys times).through hstart hrounds
    obtain ⟨hdistinct, hknown⟩ := hkept.stored hghost
    exact ⟨hdistinct, hknown⟩
  · intro hfew past event hpast
    have hregular := hstart.through past
    have hvouched : (rounds.through past).Vouched := by
      have hprefix : past <+: history := (List.prefix_append past [event]).trans hpast
      exact .ofRounds (Nat.lt_of_le_of_lt (rounds.bumps_mono hprefix) hfew)
    constructor
    · rintro index ghost status rfl hrequest haccepted
      obtain ⟨verdict, rfl, hreports⟩ := hregular.reports hrequest
      obtain ⟨hghost, ⟨after, hafter, hstatus⟩, hrevised⟩ :=
        hvouched.revises hregular hreports haccepted
      exact ⟨ghost, after, hghost, hafter, hstatus, hrevised⟩
    · intro key before after hbefore hafter
      have hconditions :=
        hvouched.conditions_undergo hregular (hrounds past event hpast) hbefore hafter
      refine ⟨hconditions, fun type old new hold hnew htimes ↦ ?_⟩
      rcases hconditions with hsame | ⟨index, hevent, hkey, hrevised⟩
      · rw [hsame, hold] at hnew
        cases hnew
        exact absurd rfl htimes
      · rcases hrevised.find? hold hnew with rfl | ⟨hcontent, htime⟩
        · exact absurd rfl htimes
        · exact ⟨hcontent, index, hevent, hkey, htime⟩

/-- One round cannot create the deployment and reports it. A second later another round is about to
report that the blog is ready. The report is added behind the first one, which stays as it is. -/
theorem conditions_revised_marketing :
    let ghost : Ghost := {
      metadata := { name := some "blog", namespaceName := some "marketing" }
      spec := ⟨"5", 1, false⟩ }
    let keys (_ : Bool) : Key := ⟨"marketing", "blog"⟩
    let times (second : Bool) : Instant := if second then ⟨1, 0, by decide⟩ else .epoch
    let past : List (Traffic.Event Bool) :=
      [.operation (.apply ghost),
        .operation (.setFault (.create .deployment) (some "exceeded quota"))] ++
        List.replicate 12 (.step false) ++
        [.operation (.setFault (.create .deployment) none)] ++ List.replicate 14 (.step true)
    let rounds := Traffic.ofRounds {} keys times
    rounds.Whenever (past ++ [.step true]) Traffic.StatusFromRounds ∧
      rounds.bumps (past ++ [.step true]) < UInt64.size ∧
      ∃ before after,
        (rounds.through past).memory.ghosts.find? (keys true) = some before ∧
          before.statusOrEmpty.conditions.map Condition.type = ["DeploymentNotReady"] ∧
          ((rounds.through past).undergo (.step true)).memory.ghosts.find? (keys true) =
            some after ∧
          after.statusOrEmpty.conditions.map Condition.type =
            ["DeploymentNotReady", "GhostReady"] ∧
          Condition.Revised (times true) before.statusOrEmpty.conditions
            after.statusOrEmpty.conditions := by
  intro ghost keys times past rounds
  have hrounds : rounds.Whenever (past ++ [.step true]) Traffic.StatusFromRounds := by
    decide +kernel
  have hfew : rounds.bumps (past ++ [.step true]) < UInt64.size :=
    Nat.lt_of_le_of_lt (rounds.bumps_le_length _) (by decide)
  have hrevised := (conditions_revised keys times hrounds).2 hfew past (.step true)
    (List.prefix_refl _)
  refine ⟨hrounds, hfew, ?_⟩
  dsimp only [rounds, past, times, keys, ghost] at hrevised ⊢
  obtain ⟨before, after, hbefore, hafter, hstatus, hconditions⟩ :=
    hrevised.1 true _ _ rfl rfl rfl
  cases hbefore
  cases hafter
  exact ⟨_, _, rfl, rfl, rfl, rfl, hconditions⟩

end BlogOperator
