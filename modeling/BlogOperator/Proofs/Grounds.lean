import BlogOperator.Proofs.Recorded
import BlogOperator.Proofs.Rules

/-!
# The grounds of a call

`Call.Grounded` says on what a call of a round rests, given the exchanges of the round so far. The
blog is read first, before anything else. A child is looked up for the blog that was read. A write
of a child is one that the blog wants after the lookup that comes right before it. A status is
offered for the blog that was read, in the version in which it was read, with one condition put into
its list.

A pass is `Pass.Grounded` when all its calls are, whatever the replies to them may be. The round for
a key is (`grounded_reconcile`), at every point of its course: what is left of it stays grounded in
what has been exchanged.
-/

set_option autoImplicit false

namespace BlogOperator

open BlogOperator.Kubernetes BlogOperator.Time

/-- The exchanges of a round for a key begin with the reading of a blog. -/
def BeganWith (key : Key) (ghost : Ghost) (past : List Exchange) : Prop :=
  past.head? = some ⟨.readGhost key, .ok (some ghost)⟩

section BeganWith

variable {key : Key} {ghost other : Ghost} {past : List Exchange}

theorem BeganWith.append (hbegan : BeganWith key ghost past) (later : List Exchange) :
    BeganWith key ghost (past ++ later) := by
  unfold BeganWith at *
  rw [List.head?_append, hbegan]
  rfl

theorem BeganWith.mem (hbegan : BeganWith key ghost past) :
    ⟨.readGhost key, .ok (some ghost)⟩ ∈ past :=
  List.mem_of_head? hbegan

/-- There is one blog that a round began with. -/
theorem BeganWith.unique (hbegan : BeganWith key ghost past) (hother : BeganWith key other past) :
    ghost = other := by
  unfold BeganWith at *
  rw [hbegan] at hother
  cases hother
  rfl

end BeganWith

/-- What a call of the round for a key rests on, after the exchanges so far. -/
def Call.Grounded (key : Key) (now : Instant) (past : List Exchange) : Call → Prop
  | .readGhost other => other = key ∧ past = []
  | .find kind place =>
    place = ⟨key.namespaceName, kind.childName key.namespaceName⟩ ∧
      ∃ ghost, BeganWith key ghost past
  | .change write =>
    ∃ ghost live, BeganWith key ghost past ∧
      past.getLast? = some ⟨.find write.kind
        ⟨key.namespaceName, write.kind.childName key.namespaceName⟩, .ok live⟩ ∧
      ghost.Wants key.namespaceName write.kind live write
  | .writeStatus ghost status =>
    BeganWith key ghost past ∧
      Condition.sameIgnoringTime ghost.statusOrEmpty.conditions status.conditions = false ∧
      ∃ verdict, status = ghost.statusWith (reportOf verdict now)

/-- A pass all of whose calls are grounded in the exchanges before them, whatever the replies. -/
def Pass.Grounded {α : Type} (key : Key) (now : Instant) (past : List Exchange) (pass : Pass α) :
    Prop :=
  pass.Keeps .exchanges (Call.Grounded key now) (fun _ _ ↦ True) past

/-! ### Rounds are grounded -/

variable {key : Key} {now : Instant}

/-- The step for a child is grounded in the reading of the blog, and its write in its lookup. -/
theorem Ghost.grounded_putInPlace {ghost : Ghost} {past : List Exchange}
    (hbegan : BeganWith key ghost past) (kind : ChildKind) :
    (ghost.putInPlace key.namespaceName kind).Keeps .exchanges (Call.Grounded key now)
      (EitherWay (BeganWith key ghost) fun _ ↦ BeganWith key ghost) past := by
  have hlater (request : Call) (reply : request.Reply) :
      BeganWith key ghost (past ++ [⟨request, reply⟩]) := hbegan.append _
  refine keeps_putInPlace ⟨rfl, ghost, hbegan⟩ ?_ ?_ ?_ ?_
  · rintro failure later rfl
    exact hlater _ _
  · rintro later rfl
    exact hlater _ _
  · rintro live later rfl hrest
    exact hlater _ _
  · rintro live later write rfl hwants
    obtain rfl := hwants.kind_eq
    refine keeps_carryOut ⟨ghost, live, hlater _ _, List.getLast?_concat, hwants⟩ ?_ ?_
    · rintro failure last rfl
      exact (hlater _ _).append _
    · rintro last told rfl rfl
      exact (hlater _ _).append _

/-- All calls of a round are grounded, whatever the cluster replies. -/
theorem grounded_reconcile (key : Key) (now : Instant) :
    (reconcile key now).Grounded key now [] := by
  refine keeps_reconcile ⟨rfl, rfl⟩ (fun _ _ _ ↦ trivial) (fun _ _ ↦ trivial) ?_
  rintro ghost later rfl
  refine keeps_reconcileGhost
    (fun kind kinds past hpast ↦ Ghost.grounded_putInPlace hpast kind) ?_ rfl
  intro verdict past hpast
  have hbegan : BeganWith key ghost past := eitherWay_self.1 hpast
  exact Ghost.keeps_recordStatus (fun _ ↦ trivial) (fun hdiffers ↦ ⟨hbegan, hdiffers, verdict, rfl⟩)
    fun _ _ _ _ ↦ trivial

end BlogOperator
