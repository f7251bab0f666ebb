import BlogOperator.Proofs.History

/-!
# How rounds end

A round ends as it has reported, whatever the replies are (`endsAsReported_reconcile`): if it has
offered a status at all, this has reported a verdict on the children, and the result follows from
the verdict and from the reply to the offer (`EndsAsReported`). Rounds that take their turns with
other events end like that, too (`Traffic.endsAsReported`).
-/

set_option autoImplicit false

namespace BlogOperator

open BlogOperator.Time

/-! ### Steps offer no status -/

/-- No status has been offered. -/
def Unreported (exchanges : List Exchange) : Prop :=
  ∀ exchange ∈ exchanges, exchange.request.name ≠ .writeStatus

theorem Unreported.concat {past : List Exchange} (hpast : Unreported past) {exchange : Exchange}
    (hexchange : exchange.request.name ≠ .writeStatus) : Unreported (past ++ [exchange]) := by
  intro other hother
  rcases List.mem_append.1 hother with hold | hlast
  · exact hpast other hold
  · rw [List.mem_singleton.1 hlast]
    exact hexchange

theorem Ghost.unreported_putInPlace {ghost : Ghost} {team : String} {past : List Exchange}
    (hpast : Unreported past) (kind : ChildKind) :
    (ghost.putInPlace team kind).Keeps .exchanges (fun _ _ ↦ True)
      (EitherWay Unreported fun _ ↦ Unreported) past := by
  have hlookup (reply : Except Failure (Option kind.Object)) :
      Unreported (past ++ [⟨.find kind ⟨team, kind.childName team⟩, reply⟩]) :=
    hpast.concat (by simp [Call.name])
  have hwritten (live : Option kind.Object) (write : Write) (reply : Except Failure Unit) :
      Unreported (past ++ [⟨.find kind ⟨team, kind.childName team⟩, .ok live⟩] ++
        [⟨.change write, reply⟩]) :=
    (hlookup (.ok live)).concat (by cases write <;> simp [Call.name, Write.name])
  refine keeps_putInPlace trivial ?_ ?_ ?_ ?_
  · rintro failure later rfl
    exact hlookup _
  · rintro later rfl
    exact hlookup _
  · rintro live later rfl hrest
    exact hlookup _
  · rintro live later write rfl hwants
    refine keeps_carryOut trivial ?_ ?_
    · rintro failure last rfl
      exact hwritten live write _
    · rintro last told rfl rfl
      exact hwritten live write _

/-! ### Rounds end as they report -/

/-- A status that has been offered reports a verdict and differs from the present one in more than
times, and the result follows from the verdict and from what became of the offer. -/
def EndsAsReported (now : Instant) (exchanges : List Exchange) (result : Except Failure Unit) :
    Prop :=
  ∀ ghost status reply, ⟨.writeStatus ghost status, reply⟩ ∈ exchanges →
    ∃ verdict, status = ghost.statusWith (reportOf verdict now) ∧
      Condition.sameIgnoringTime ghost.statusOrEmpty.conditions status.conditions = false ∧
      result = resultOf verdict reply

theorem Unreported.endsAsReported {past : List Exchange} (hpast : Unreported past) (now : Instant)
    (result : Except Failure Unit) : EndsAsReported now past result :=
  fun _ _ _ hoffer ↦ absurd rfl (hpast _ hoffer)

/-- What is ensured after the offer of a status that reports a verdict. -/
theorem Ghost.reports_recordStatus {ghost : Ghost} {past : List Exchange} (hpast : Unreported past)
    (verdict : Except Setback Unit) (now : Instant) :
    (ghost.recordStatus (ghost.statusWith (reportOf verdict now))).Keeps .exchanges
      (fun _ _ ↦ True)
      (fun later reply ↦ EndsAsReported now later (resultOf verdict reply)) past := by
  refine keeps_recordStatus (fun _ ↦ hpast.endsAsReported now _) (fun _ ↦ trivial) ?_
  rintro reply later hdiffers rfl other status answer hoffer
  rcases List.mem_append.1 hoffer with hold | hlast
  · exact absurd rfl (hpast _ hold)
  · cases List.mem_singleton.1 hlast
    exact ⟨verdict, rfl, hdiffers, rfl⟩

/-- A round ends as it has reported, whatever the cluster replies. -/
theorem endsAsReported_reconcile (key : Key) (now : Instant) :
    (reconcile key now).Keeps .exchanges (fun _ _ ↦ True) (EndsAsReported now) [] := by
  have hread (reply : Except Failure (Option Ghost)) :
      Unreported ([] ++ [⟨.readGhost key, reply⟩]) :=
    Unreported.concat (fun exchange hexchange ↦ by cases hexchange) (by simp [Call.name])
  refine keeps_reconcile trivial ?_ ?_ ?_
  · rintro failure later rfl
    exact (hread _).endsAsReported now _
  · rintro later rfl
    exact (hread _).endsAsReported now _
  · rintro ghost later rfl
    exact keeps_reconcileGhost
      (fun kind kinds past hpast ↦ Ghost.unreported_putInPlace hpast kind)
      (fun verdict past hpast ↦ Ghost.reports_recordStatus (eitherWay_self.1 hpast) verdict now)
      (hread _)

namespace Traffic

variable {ι α : Type} [DecidableEq ι]

/-- Rounds that take their turns with other events end as they have reported. -/
theorem endsAsReported {memory : Memory} {keys : ι → Key} {times : ι → Instant}
    {history : List (Event ι)} {index : ι} {result : Except Failure Unit}
    (hresult : (((ofRounds memory keys times).through history).passes index).result? =
      some result) :
    EndsAsReported (times index)
      (((ofRounds memory keys times).through history).passes index).exchanges result := by
  have hstart : ((ofRounds memory keys times).passes index).rest.Keeps .exchanges
      (fun _ _ ↦ True) (EndsAsReported (times index))
      ((ofRounds memory keys times).passes index).exchanges :=
    endsAsReported_reconcile (keys index) (times index)
  have hend := keeps_through hstart history
  generalize ((ofRounds memory keys times).through history).passes index = underway at *
  obtain ⟨rest, happenings⟩ := underway
  cases rest with
  | done value =>
    cases hresult
    exact hend
  | call request next => cases hresult
  | announce notice next => cases hresult
  | log line next => cases hresult

end Traffic

end BlogOperator
