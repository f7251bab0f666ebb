import BlogOperator.Proofs.Round

/-!
# Rules that passes keep

`Pass.Keeps` is a predicate on passes for statements about all that may come of one. It asks for a
rule to be kept by every call, given what is on record before it, and for something to hold of the
record and the value in the end, whatever the replies are. Both parts are needed at once: a part of
a pass keeps the rule because of what the parts before it have ensured (`Keeps.bind`).

What is put on record, and how, is a parameter: a `Growth` says how a record goes on with a call and
the reply to it, and how with a notice. Under `Growth.exchanges` it consists of the exchanges.

Each part of a round has one lemma here that says what is to be shown for it to keep a rule, from
`Ghost.keeps_carryOut` for a write to `keeps_reconcile` for the whole. They hold of every rule and
every growth, and the induction over the kinds of children is made in one of them
(`Ghost.keeps_putAllInPlace`). A statement about rounds says what is known of the record before each
step, and cites them.
-/

set_option autoImplicit false

namespace BlogOperator

open BlogOperator.Time

/-- How the record of a pass may go on with a call and the reply to it, and how with a notice. -/
structure Growth (η : Type) where
  called : η → (request : Call) → request.Reply → η → Prop
  announced : η → η → Prop

/-- A record of the exchanges, in order. -/
def Growth.exchanges : Growth (List Exchange) where
  called past request reply later := later = past ++ [⟨request, reply⟩]
  announced past later := later = past

namespace Pass

variable {η α β : Type} {growth : Growth η} {rule : η → Call → Prop} {ensured : η → α → Prop}
  {past : η} {pass : Pass α}

/-- A rule is kept by every call of the pass, given the record before the call, and something holds
of the record and the value when the pass ends, whatever the replies are. -/
def Keeps (growth : Growth η) (rule : η → Call → Prop) (ensured : η → α → Prop) :
    η → Pass α → Prop
  | past, done value => ensured past value
  | past, call request next =>
    rule past request ∧ ∀ reply later, growth.called past request reply later →
      (next reply).Keeps growth rule ensured later
  | past, announce _ next =>
    ∀ later, growth.announced past later → next.Keeps growth rule ensured later
  | past, log _ next => next.Keeps growth rule ensured past

theorem Keeps.mono {weaker : η → α → Prop} (hpass : pass.Keeps growth rule ensured past)
    (hweaker : ∀ record value, ensured record value → weaker record value) :
    pass.Keeps growth rule weaker past := by
  induction pass generalizing past with
  | done value => exact hweaker past value hpass
  | call request next ih =>
    exact ⟨hpass.1, fun reply later hlater ↦ ih reply (hpass.2 reply later hlater)⟩
  | announce notice next ih => exact fun later hlater ↦ ih (hpass later hlater)
  | log line next ih => exact ih hpass

/-- A pass that goes on with another one keeps a rule if it does up to there and if the other one
does, given what has been ensured. -/
theorem Keeps.bind {next : α → Pass β} {ensured : η → β → Prop}
    (hpass : pass.Keeps growth rule
      (fun later value ↦ (next value).Keeps growth rule ensured later) past) :
    (pass >>= next).Keeps growth rule ensured past := by
  induction pass generalizing past with
  | done value => exact hpass
  | call request following ih =>
    exact ⟨hpass.1, fun reply later hlater ↦ ih reply (hpass.2 reply later hlater)⟩
  | announce notice following ih => exact fun later hlater ↦ ih (hpass later hlater)
  | log line following ih => exact ih hpass

/-- The call that a pass is about to make, if it is about to make one. -/
def request? : Pass α → Option Call
  | call request _ => some request
  | _ => none

/-- The call that a pass is about to make keeps the rule. -/
theorem Keeps.request (hpass : pass.Keeps growth rule ensured past) {request : Call}
    (hrequest : pass.request? = some request) : rule past request := by
  cases pass with
  | call other next =>
    cases hrequest
    exact hpass.1
  | done value => cases hrequest
  | announce notice next => cases hrequest
  | log line next => cases hrequest

end Pass

/-! ### The parts of a round -/

/-- What is known when a part of a round is over: one thing if it has succeeded, and another if it
has failed. -/
def EitherWay {η ε α : Type} (succeeded : η → Prop) (failed : ε → η → Prop) (past : η) :
    Except ε α → Prop
  | .ok _ => succeeded past
  | .error failure => failed failure past

theorem eitherWay_self {η ε α : Type} {known : η → Prop} {past : η} {result : Except ε α} :
    EitherWay known (fun _ ↦ known) past result ↔ known past := by
  cases result <;> exact Iff.rfl

section Rounds

variable {η : Type} {growth : Growth η} {rule : η → Call → Prop} {past : η} {ghost : Ghost}

namespace Ghost

variable {team : String}

/-- A write that is carried out keeps a rule if its call does. -/
theorem keeps_carryOut {write : Write} {ensured : η → Except Failure Outcome → Prop}
    (hcall : rule past (.change write))
    (hrefused : ∀ failure later, growth.called past (.change write) (.error failure) later →
      ensured later (.error failure))
    (haccepted : ∀ later last, growth.called past (.change write) (.ok ()) later →
      growth.announced later last → ensured last (.ok write.outcome)) :
    (ghost.carryOut team write).Keeps growth rule ensured past := by
  unfold carryOut Pass.ask
  rw [Pass.bind_call]
  refine ⟨hcall, fun reply later hlater ↦ ?_⟩
  cases reply with
  | error failure => exact hrefused failure later hlater
  | ok => exact fun last hlast ↦ haccepted later last hlater hlast

/-- The step for a child keeps a rule if its lookup does, and if the write does that the blog wants
after the lookup. -/
theorem keeps_putInPlace {kind : ChildKind} {ensured : η → Except Failure Outcome → Prop}
    (hcall : rule past (.find kind ⟨team, kind.childName team⟩))
    (hrefused : ∀ failure later, growth.called past (.find kind ⟨team, kind.childName team⟩)
      (.error failure) later → ensured later (.error failure))
    (hunowned : ∀ later, growth.called past (.find kind ⟨team, kind.childName team⟩)
      (.ok none) later → ensured later (.error .missingIdentity))
    (hrest : ∀ live later, growth.called past (.find kind ⟨team, kind.childName team⟩)
      (.ok live) later → ghost.AtRest kind live → ensured later (.ok .unchanged))
    (hwrite : ∀ live later write, growth.called past (.find kind ⟨team, kind.childName team⟩)
      (.ok live) later → ghost.Wants team kind live write →
        (ghost.carryOut team write).Keeps growth rule ensured later) :
    (ghost.putInPlace team kind).Keeps growth rule ensured past := by
  unfold putInPlace Pass.ask
  rw [Pass.bind_call]
  refine ⟨hcall, fun reply later hlater ↦ ?_⟩
  dsimp only [Pass.bind_done]
  cases reply with
  | error failure => exact hrefused failure later hlater
  | ok live =>
    have hcases := ghost.due?_cases team kind live
    unfold due? at hcases
    rcases hcases with ⟨write, hdue, hwants⟩ | ⟨hdue, hatRest⟩ | ⟨hdue, rfl, -⟩
    · simp only [hdue]
      exact hwrite live later write hlater hwants
    · simp only [hdue]
      exact hrest live later hlater hatRest
    · simp only [hdue]
      exact hunowned later hlater

/-- Steps one after another keep a rule if each step does, given what is known before it with the
kinds that are still to be seen to. -/
theorem keeps_putAllInPlace {steps : List ChildKind → η → Prop} {stopped : Failure → η → Prop}
    (hstep : ∀ kind kinds past, steps (kind :: kinds) past →
      (ghost.putInPlace team kind).Keeps growth rule (EitherWay (steps kinds) stopped) past)
    {kinds : List ChildKind} (hpast : steps kinds past) (readiness : Readiness) :
    (ghost.putAllInPlace team kinds readiness).Keeps growth rule
      (fun later result ↦
        EitherWay (steps []) (fun setback ↦ stopped setback.failure) later result ∧
          ∀ last, result = .ok last →
            last.outcomes.map Prod.fst = readiness.outcomes.map Prod.fst ++ kinds) past := by
  induction kinds generalizing past readiness with
  | nil =>
    refine ⟨hpast, fun last hlast ↦ ?_⟩
    cases hlast
    simp
  | cons kind kinds ih =>
    rw [putAllInPlace]
    refine ((hstep kind kinds past hpast).mono fun later result hlater ↦ ?_).bind
    cases result with
    | error failure =>
      refine ⟨hlater, fun last hlast ↦ ?_⟩
      cases hlast
    | ok outcome =>
      refine (ih hlater _).mono fun ended result hend ↦ ⟨hend.1, fun last hlast ↦ ?_⟩
      rw [hend.2 last hlast]
      simp [Readiness.record]

/-- The offer of a status keeps a rule if its call does, unless it differs from the present one in
nothing but times. -/
theorem keeps_recordStatus {status : GhostStatus} {ensured : η → Except Failure Unit → Prop}
    (hsame : Condition.sameIgnoringTime ghost.statusOrEmpty.conditions status.conditions = true →
      ensured past (.ok ()))
    (hcall : Condition.sameIgnoringTime ghost.statusOrEmpty.conditions status.conditions = false →
      rule past (.writeStatus ghost status))
    (hreply : ∀ reply later,
      Condition.sameIgnoringTime ghost.statusOrEmpty.conditions status.conditions = false →
        growth.called past (.writeStatus ghost status) reply later → ensured later reply) :
    (ghost.recordStatus status).Keeps growth rule ensured past := by
  unfold recordStatus
  cases hdiffers : Condition.sameIgnoringTime ghost.statusOrEmpty.conditions status.conditions with
  | true => exact hsame hdiffers
  | false => exact ⟨hcall hdiffers, fun reply later hlater ↦ hreply reply later hdiffers hlater⟩

end Ghost

variable {key : Key} {now : Instant} {ensured : η → Except Failure Unit → Prop}

/-- The round for a blog that has been read keeps a rule if each step does, and then the offer of a
status that reports how the steps went. -/
theorem keeps_reconcileGhost {steps : List ChildKind → η → Prop} {stopped : Failure → η → Prop}
    (hstep : ∀ kind kinds past, steps (kind :: kinds) past →
      (ghost.putInPlace key.namespaceName kind).Keeps growth rule
        (EitherWay (steps kinds) stopped) past)
    (hoffer : ∀ (verdict : Except Setback Unit) past,
      EitherWay (steps []) (fun setback ↦ stopped setback.failure) past verdict →
        (ghost.recordStatus (ghost.statusWith (reportOf verdict now))).Keeps growth rule
          (fun later reply ↦ ensured later (resultOf verdict reply)) past)
    (hpast : steps ChildKind.all past) :
    (reconcileGhost key now ghost).Keeps growth rule ensured past := by
  unfold reconcileGhost
  refine ((Ghost.keeps_putAllInPlace hstep hpast {}).mono fun later result hlater ↦ ?_).bind
  obtain ⟨hlater, hkinds⟩ := hlater
  cases result with
  | error setback =>
    dsimp only
    unfold endWithSetback Pass.write
    rw [Pass.bind_log, Pass.bind_done]
    refine Pass.Keeps.bind ((hoffer (.error setback) later hlater).mono fun last reply hlast ↦ ?_)
    cases reply with
    | error failure => exact hlast
    | ok => exact hlast
  | ok readiness =>
    have hready : readiness.allReady = true := Readiness.allReady_of_kinds (hkinds readiness rfl)
    dsimp only
    unfold endWithReadiness
    rw [if_pos hready]
    refine Pass.Keeps.bind ((hoffer (.ok ()) later hlater).mono fun last reply hlast ↦ ?_)
    cases reply with
    | error failure => exact hlast
    | ok => exact hlast

/-- A round keeps a rule if the reading of the blog does, and then the round for the blog that has
been read. -/
theorem keeps_reconcile (hcall : rule past (.readGhost key))
    (hrefused : ∀ failure later, growth.called past (.readGhost key) (.error failure) later →
      ensured later (.error failure))
    (hgone : ∀ later, growth.called past (.readGhost key) (.ok none) later → ensured later (.ok ()))
    (hfound : ∀ ghost later, growth.called past (.readGhost key) (.ok (some ghost)) later →
      (reconcileGhost key now ghost).Keeps growth rule ensured later) :
    (reconcile key now).Keeps growth rule ensured past := by
  unfold reconcile Pass.ask
  rw [Pass.bind_call]
  refine ⟨hcall, fun reply later hlater ↦ ?_⟩
  dsimp only [Pass.bind_done]
  rcases reply with failure | _ | ghost
  · exact hrefused failure later hlater
  · exact hgone later hlater
  · exact hfound ghost later hlater

end Rounds

end BlogOperator
