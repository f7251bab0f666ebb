import BlogOperator.Proofs.Reachable
import BlogOperator.Proofs.Course
import BlogOperator.Proofs.Recorded

/-!
# Statuses that are withheld

Whether two lists of conditions agree in everything but the times is found out entry by entry
(`Condition.sameIgnoringTime_eq_zip`), and it is nothing else than equality without the times. So it
is an equivalence (`Condition.equivalence_sameIgnoringTime`), and it stays when the same finding is
put into both lists, at whatever instants (`Condition.sameIgnoringTime_upsert_stamped`).

A condition is `Condition.OnRecord` in a list when what is found under its type says the same. Then
putting it into the list changes no more than one time (`Condition.restamped_of_onRecord`), and only
then do the lists agree. A round looks at this before it offers a status: `withheld_exactly` says
that it offers none exactly if what it reports is on record already.
-/

set_option autoImplicit false

namespace BlogOperator

open BlogOperator.Time

namespace Condition

/-! ### Agreement in everything but the times -/

/-- Two lists agree when they are as long as each other and agree place by place. -/
theorem sameIgnoringTime_eq_zip (firsts seconds : List Condition) :
    sameIgnoringTime firsts seconds =
      (firsts.length == seconds.length &&
        (firsts.zip seconds).all fun pair ↦ pair.1.sameContent pair.2) := by
  induction firsts generalizing seconds with
  | nil => cases seconds <;> rfl
  | cons first firsts ih =>
    cases seconds with
    | nil => rfl
    | cons second seconds =>
      rw [sameIgnoringTime, ih]
      simp [Bool.and_left_comm]

theorem equivalence_sameIgnoringTime :
    Equivalence fun firsts seconds ↦ sameIgnoringTime firsts seconds = true where
  refl := sameIgnoringTime_self
  symm hsame := sameIgnoringTime_iff.2 (sameIgnoringTime_iff.1 hsame).symm
  trans hfirst hsecond := sameIgnoringTime_iff.2
    ((sameIgnoringTime_iff.1 hfirst).trans (sameIgnoringTime_iff.1 hsecond))

theorem timeless_stamped (type : String) (status : Verdict) (reason message : String)
    (now : Instant) :
    (stamped type status reason message now).timeless = ⟨type, status, reason, message, ""⟩ := rfl

/-- Without the times, putting a condition into a list comes to putting it there without its
time. -/
theorem map_timeless_upsert (new : Condition) (conditions : List Condition) :
    (upsert new conditions).map timeless = upsert new.timeless (conditions.map timeless) := by
  induction conditions with
  | nil => rfl
  | cons condition rest ih =>
    rw [upsert_cons, List.map_cons, upsert_cons]
    change _ = if condition.type = new.type then _ else _
    by_cases htype : condition.type = new.type
    · simp [htype]
    · simp [htype, ih]

/-- Lists that agree still do when the same finding is put into both, at whatever instants. -/
theorem sameIgnoringTime_upsert_stamped {firsts seconds : List Condition}
    (hsame : sameIgnoringTime firsts seconds = true) (type : String) (status : Verdict)
    (reason message : String) (now later : Instant) :
    sameIgnoringTime (upsert (stamped type status reason message now) firsts)
      (upsert (stamped type status reason message later) seconds) = true := by
  rw [sameIgnoringTime_iff] at *
  rw [map_timeless_upsert, map_timeless_upsert, hsame, timeless_stamped, timeless_stamped]

/-! ### Conditions on record -/

/-- A condition is on record in a list when the one that is found under its type says the same. -/
def OnRecord (new : Condition) (conditions : List Condition) : Prop :=
  ∃ old, find? conditions new.type = some old ∧ old.status = new.status ∧
    old.reason = new.reason ∧ old.message = new.message

theorem type_of_find? {conditions : List Condition} {type : String} {found : Condition}
    (hfound : find? conditions type = some found) : found.type = type := by
  simpa using List.find?_some hfound

/-- Putting a condition into a list changes nothing but times exactly if it is on record. -/
theorem sameIgnoringTime_upsert_iff_onRecord {new : Condition} {conditions : List Condition} :
    sameIgnoringTime conditions (upsert new conditions) = true ↔ new.OnRecord conditions := by
  rw [sameIgnoringTime_upsert_iff]
  refine exists_congr fun old ↦ and_congr_right fun hfound ↦ ?_
  rw [sameContent_iff, type_of_find? hfound, eq_self, true_and]

/-- Where a condition is on record, putting it into the list changes one time and nothing else. -/
theorem restamped_of_onRecord {new : Condition} {conditions : List Condition}
    (hrecorded : new.OnRecord conditions) :
    ∃ before old after, conditions = before ++ old :: after ∧
      upsert new conditions =
        before ++ { old with lastTransitionTime := new.lastTransitionTime } :: after := by
  obtain ⟨recorded, hfound, hstatus, hreason, hmessage⟩ := hrecorded
  have hput := putInto_upsert new conditions
  generalize upsert new conditions = revised at hput ⊢
  cases hput with
  | @replaced old before after htype hfirst =>
    obtain rfl : recorded = old :=
      Option.some.inj (hfound.symm.trans (find?_append_cons hfirst htype))
    refine ⟨before, recorded, after, rfl, ?_⟩
    rw [htype, hstatus, hreason, hmessage]
  | added conditions hnone =>
    have hnever : find? conditions new.type = none :=
      List.find?_eq_none.2 (by simpa using hnone)
    cases hnever.symm.trans hfound

end Condition

/-! ### Rounds -/

variable {σ : Type}

/-- The steps for the children offer no status. -/
theorem Ghost.name_ne_writeStatus_of_mem (environment : Environment σ) (ghost : Ghost)
    (team : String) (kinds : List ChildKind) (readiness : Readiness) (state : σ)
    {exchange : Exchange}
    (hmem : exchange ∈
      ((ghost.putAllInPlace team kinds readiness).run environment state).exchanges) :
    exchange.request.name ≠ .writeStatus := by
  obtain ⟨records, -, hexchanges, -⟩ :=
    putAllInPlace_goes environment ghost team kinds readiness state
  rw [hexchanges] at hmem
  obtain ⟨record, -, hmem⟩ := List.mem_flatMap.1 hmem
  rcases List.mem_cons.1 hmem with rfl | hwritten
  · exact CallName.noConfusion
  · obtain ⟨⟨write, reply⟩, -, rfl⟩ := List.mem_map.1 hwritten
    cases write with
    | create kind object => exact CallName.noConfusion
    | replace deployment => exact CallName.noConfusion
    | remove key => exact CallName.noConfusion

/-- What a round reports on a blog that it has read: how the steps for the children went. -/
def reportOfSteps (environment : Environment σ) (key : Key) (now : Instant) (ghost : Ghost)
    (state : σ) : Condition :=
  reportOf (((ghost.putAllInPlace key.namespaceName ChildKind.all {}).run environment
    state).result.map fun _ ↦ ()) now

/-- The calls of a round for a blog that has been read: those of the steps, and then the offer of
the status with the report unless the report is on record. -/
theorem exchanges_reconcileGhost_eq (environment : Environment σ) (key : Key) (now : Instant)
    (ghost : Ghost) (state : σ) :
    let steps := (ghost.putAllInPlace key.namespaceName ChildKind.all {}).run environment state
    let report := reportOfSteps environment key now ghost state
    let round := (reconcileGhost key now ghost).run environment state
    (report.OnRecord ghost.statusOrEmpty.conditions → round.exchanges = steps.exchanges) ∧
      (¬report.OnRecord ghost.statusOrEmpty.conditions →
        ∃ reply, round.exchanges =
          steps.exchanges ++ [⟨.writeStatus ghost (ghost.statusWith report), reply⟩]) := by
  intro steps report round
  obtain ⟨-, hexchanges, -, -⟩ := reconcileGhost_spec environment key now ghost state
  have hround : round.exchanges = steps.exchanges ++
      ((ghost.recordStatus (ghost.statusWith report)).run environment steps.state).exchanges :=
    hexchanges
  have hsame : Condition.sameIgnoringTime ghost.statusOrEmpty.conditions
      (ghost.statusWith report).conditions = true ↔
        report.OnRecord ghost.statusOrEmpty.conditions :=
    Condition.sameIgnoringTime_upsert_iff_onRecord
  rw [hround, Ghost.run_recordStatus]
  constructor
  · intro hrecorded
    rw [if_pos (hsame.2 hrecorded)]
    exact List.append_nil _
  · intro hnew
    rw [if_neg fun hequal ↦ hnew (hsame.1 hequal)]
    exact ⟨_, rfl⟩

/-- Two lists of conditions are found to agree, place by place and with as many places, exactly if
they are equal without the times. That is an equivalence, and it is kept when one finding is put
into both lists at any two instants. A list agrees with what becomes of it when a condition is put
into it exactly if the condition found under that type has the same status, reason and message.

So a round for a blog that has been read offers no status exactly if what it reports is on record
with the blog, and then what it does not write differs from what is stored in one time at most. In
all other cases it offers the status with the report after its steps. -/
theorem withheld_exactly :
    (∀ firsts seconds : List Condition,
        (Condition.sameIgnoringTime firsts seconds =
          (firsts.length == seconds.length &&
            (firsts.zip seconds).all fun pair ↦ pair.1.sameContent pair.2)) ∧
        (Condition.sameIgnoringTime firsts seconds = true ↔
          firsts.map Condition.timeless = seconds.map Condition.timeless)) ∧
      (Equivalence fun firsts seconds ↦ Condition.sameIgnoringTime firsts seconds = true) ∧
      (∀ firsts seconds : List Condition, Condition.sameIgnoringTime firsts seconds = true →
        ∀ (type : String) (status : Verdict) (reason message : String) (now later : Instant),
          Condition.sameIgnoringTime
            (Condition.upsert (.stamped type status reason message now) firsts)
            (Condition.upsert (.stamped type status reason message later) seconds) = true) ∧
      (∀ (conditions : List Condition) (type : String) (status : Verdict)
          (reason message : String) (now : Instant),
        Condition.sameIgnoringTime conditions
            (Condition.upsert (.stamped type status reason message now) conditions) = true ↔
          ∃ old, Condition.find? conditions type = some old ∧ old.status = status ∧
            old.reason = reason ∧ old.message = message) ∧
      ∀ {σ : Type} (environment : Environment σ) (key : Key) (now : Instant) (state after : σ)
          (ghost : Ghost),
        environment.answer (.readGhost key) state = (.ok (some ghost), after) →
        let stored := ghost.statusOrEmpty.conditions
        let report := reportOfSteps environment key now ghost after
        let steps :=
          (ghost.putAllInPlace key.namespaceName ChildKind.all {}).run environment after
        let round := (reconcile key now).run environment state
        let begun : List Exchange := ⟨.readGhost key, .ok (some ghost)⟩ :: steps.exchanges
        ((∀ exchange ∈ round.exchanges, exchange.request.name ≠ .writeStatus) ↔
            report.OnRecord stored) ∧
          (report.OnRecord stored →
            round.exchanges = begun ∧
              ∃ before old later, stored = before ++ old :: later ∧
                (ghost.statusWith report).conditions =
                  before ++ { old with lastTransitionTime := now.text } :: later) ∧
          (¬report.OnRecord stored → ∃ reply, round.exchanges =
            begun ++ [⟨.writeStatus ghost (ghost.statusWith report), reply⟩]) := by
  refine ⟨fun firsts seconds ↦ ⟨Condition.sameIgnoringTime_eq_zip firsts seconds,
    Condition.sameIgnoringTime_iff⟩, Condition.equivalence_sameIgnoringTime,
    fun firsts seconds ↦ Condition.sameIgnoringTime_upsert_stamped,
    fun conditions type status reason message now ↦
      Condition.sameIgnoringTime_upsert_iff_onRecord, ?_⟩
  intro σ environment key now state after ghost hread stored report steps round begun
  have hround : round.exchanges = ⟨.readGhost key, .ok (some ghost)⟩ ::
      ((reconcileGhost key now ghost).run environment after).exchanges := by
    change ((reconcile key now).run environment state).exchanges = _
    rw [run_reconcile, hread]
    exact Run.exchanges_after _ _
  obtain ⟨hwithheld, hoffered⟩ := exchanges_reconcileGhost_eq environment key now ghost after
  have htime : report.lastTransitionTime = now.text := lastTransitionTime_reportOf _ now
  have hquiet (hrecorded : report.OnRecord stored) : round.exchanges = begun := by
    rw [hround, hwithheld hrecorded]
  have hmade (hnew : ¬report.OnRecord stored) : ∃ reply, round.exchanges =
      begun ++ [⟨.writeStatus ghost (ghost.statusWith report), reply⟩] := by
    obtain ⟨reply, hexchanges⟩ := hoffered hnew
    exact ⟨reply, by rw [hround, hexchanges]; rfl⟩
  refine ⟨⟨fun hnone ↦ ?_, fun hrecorded exchange hmem ↦ ?_⟩, fun hrecorded ↦
    ⟨hquiet hrecorded, ?_⟩, hmade⟩
  · by_cases hrecorded : report.OnRecord stored
    · exact hrecorded
    · obtain ⟨reply, hexchanges⟩ := hmade hrecorded
      refine absurd rfl (hnone ⟨.writeStatus ghost (ghost.statusWith report), reply⟩ ?_)
      rw [hexchanges]
      exact List.mem_append_right _ (List.mem_singleton_self _)
  · rw [hquiet hrecorded] at hmem
    rcases List.mem_cons.1 hmem with rfl | hstep
    · exact CallName.noConfusion
    · exact ghost.name_ne_writeStatus_of_mem environment _ _ _ _ hstep
  · rw [← htime]
    exact Condition.restamped_of_onRecord hrecorded

/-- A round makes a new blog ready and writes that down. A second later another round finds all in
place and offers no status. -/
theorem withheld_exactly_marketing :
    let memory := ({} : Memory).perform (.apply {
      metadata := { name := some "blog", namespaceName := some "marketing" }
      spec := ⟨"5", 1, true⟩ })
    let key : Key := ⟨"marketing", "blog"⟩
    let later : Instant := ⟨1, 0, by decide⟩
    let first := (reconcile key .epoch).run Memory.environment memory
    let second := (reconcile key later).run Memory.environment first.state
    (¬∀ exchange ∈ first.exchanges, exchange.request.name ≠ .writeStatus) ∧
      ∀ exchange ∈ second.exchanges, exchange.request.name ≠ .writeStatus := by
  intro memory key later first second
  obtain ⟨-, -, -, -, hrounds⟩ := withheld_exactly
  -- The rounds are worked out only once they are written out.
  dsimp only [second, first, later, key, memory]
  constructor
  · intro hquiet
    obtain ⟨old, hfound, -⟩ := (hrounds Memory.environment _ _ _ _ _ rfl).1.1 hquiet
    cases hfound
  · refine (hrounds Memory.environment _ _ _ _ _ rfl).1.2 ?_
    exact ⟨_, rfl, rfl, rfl, rfl⟩

end BlogOperator
