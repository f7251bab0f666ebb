import BlogOperator.Proofs.Reachable
import BlogOperator.Proofs.Round
import BlogOperator.Reconcile.Controller
import Mathlib.Data.List.Forall2

/-!
# The bookkeeping of retries

A controller is handed blogs, one after another and in any order, and each round that fails is
settled: the failure is counted, and a wait is chosen for it. This module shows that what the
controller remembers is just the number of failed rounds since the last one that succeeded, under
every key, and that nothing else decides after how long a blog is due again.

A `Desk` is a controller at work: it is together with the cluster and with a journal of what has
come of everything that was done. `Desk.Event` lists what can be done. A round is run in an
environment of its own, which answers its calls in any way, and between rounds the cluster changes
into any other; so failures may be injected anywhere. A round touches what is remembered only at its
end, whence it is one event here, also where rounds for other keys go on beside it. `Desk.Proper`
says of a history that each failure is settled, with the blog it is about, before a blog is handed
over again under its key, and that nothing else is settled.

What can come of handing a blog over is said in `Controller.attempt_of_ok` and
`Controller.attempt_of_error`. One event keeps the count in step with the journal (`Kept.undergo`),
and so does a history (`Kept.through`). `Desk.through_alike` says that histories in which the blogs
handed over differ in anything but their names come to the same. `retries_accounted` puts this
together.
-/

set_option autoImplicit false

namespace BlogOperator

open BlogOperator.Kubernetes BlogOperator.Time

/-! ### Counts and waits -/

namespace Backoff

/-- The number beyond which failures are no longer counted. -/
def ceiling : Nat := 4294967295

theorem toNat_increased (count : UInt32) :
    (increased count).toNat = min (count.toNat + 1) ceiling := by
  have hbound : count.toNat < 4294967296 := count.toNat_lt
  unfold increased ceiling
  by_cases hfull : count = 0xffffffff
  · rw [if_pos hfull, hfull]
    rfl
  · have hroom : count.toNat ≠ 0xffffffff := fun htop ↦ hfull (UInt32.toNat.inj htop)
    rw [if_neg hfull, UInt32.toNat_add, show (1 : UInt32).toNat = 1 from rfl]
    omega

/-- One more is counted up to the ceiling. -/
theorem toNat_increased_of_min {count : UInt32} {before : Nat}
    (hcount : count.toNat = min before ceiling) :
    (increased count).toNat = min (before + 1) ceiling := by
  rw [toNat_increased, hcount]
  omega

/-- A wait is the first one, doubled for every failure before it up to sixteen times, or the longest
one if that is shorter. -/
theorem nanoseconds_delay (backoff : Backoff) (before : UInt32) :
    (backoff.delay before).nanoseconds =
      min (backoff.initial.nanoseconds * Nat.pow 2 (min before.toNat 16))
        backoff.max.nanoseconds := by
  unfold delay doublings
  cases hscaled : backoff.initial.scaled? (Nat.pow 2 (min before.toNat 16)) with
  | some wait =>
    have hwait := Duration.ofNanoseconds?_eq_some.1 hscaled
    dsimp only
    rw [Duration.nanoseconds_shorter, hwait]
  | none =>
    have hlimit := Duration.ofNanoseconds?_eq_none.1 hscaled
    exact (Nat.min_eq_right (Nat.le_of_lt (Nat.lt_of_lt_of_le backoff.max.bounded hlimit))).symm

theorem failures_reset (backoff : Backoff) (key other : Key) :
    (backoff.reset key).failures other = if other = key then 0 else backoff.failures other := by
  unfold failures reset
  rw [Shelf.find?_erase]
  split
  · rfl
  · rfl

theorem failures_nextDelay (backoff : Backoff) (key other : Key) :
    (backoff.nextDelay key).2.failures other =
      if other = key then increased (backoff.failures key) else backoff.failures other := by
  unfold failures nextDelay
  rw [Shelf.find?_insert]
  split
  · rfl
  · rfl

end Backoff

/-! ### What comes of handing a blog over -/

namespace Controller

variable {σ : Type} {environment : Environment σ} {now : Instant} {ghost : Ghost} {state : σ}

/-- After a round that succeeds the blog is due again after the resync interval, and the failures of
its key are forgotten. -/
theorem attempt_of_ok (controller : Controller)
    (hresult : ((reconcile (keyOf ghost) now).run environment state).result = .ok ()) :
    let attempt := controller.attempt environment now ghost state
    attempt.result = .ok controller.config.resyncInterval ∧
      attempt.controller =
        { controller with backoff := controller.backoff.reset (keyOf ghost) } := by
  unfold attempt succeeded
  simp only [hresult]
  exact ⟨trivial, trivial⟩

/-- A round that fails leaves what is remembered as it is. -/
theorem attempt_of_error (controller : Controller) {failure : Failure}
    (hresult : ((reconcile (keyOf ghost) now).run environment state).result = .error failure) :
    let attempt := controller.attempt environment now ghost state
    attempt.result = .error failure ∧ attempt.controller = controller := by
  unfold attempt
  simp only [hresult]
  exact ⟨trivial, trivial⟩

end Controller

/-! ### The journal -/

/-- What has come of something that was done. -/
inductive Desk.Entry where
  /-- A round for a key succeeded, and is due again after some time. -/
  | passed (key : Key) (after : Duration)
  /-- The round for a blog that was handed over failed. -/
  | failed (ghost : Ghost) (failure : Failure)
  /-- A failure about a blog that was handed over was counted, and is tried again after a wait. -/
  | settled (ghost : Ghost) (delay : Duration)

namespace Desk

open Controller

/-- What was decided, and under which key. -/
def Entry.action : Entry → Key × Except Failure Duration
  | .passed key after => (key, .ok after)
  | .failed ghost failure => (keyOf ghost, .error failure)
  | .settled ghost delay => (keyOf ghost, .ok delay)

/-- The failure under a key that has yet to be settled, with the blog that was handed over. The last
entry of the journal comes first. -/
def pending? (key : Key) : List Entry → Option (Ghost × Failure)
  | [] => none
  | .passed other _ :: past => if other = key then none else pending? key past
  | .failed ghost failure :: past =>
    if keyOf ghost = key then some (ghost, failure) else pending? key past
  | .settled ghost _ :: past => if keyOf ghost = key then none else pending? key past

/-- The number of rounds under a key that have failed since one succeeded, or ever. The last entry
of the journal comes first. -/
def failedSince (key : Key) : List Entry → Nat
  | [] => 0
  | .passed other _ :: past => if other = key then 0 else failedSince key past
  | .failed ghost _ :: past =>
    if keyOf ghost = key then failedSince key past + 1 else failedSince key past
  | .settled _ _ :: past => failedSince key past

/-- The entry for a blog that was handed over. -/
def entryOf (ghost : Ghost) : Except Failure Duration → Entry
  | .ok after => .passed (keyOf ghost) after
  | .error failure => .failed ghost failure

end Desk

/-! ### A controller at work -/

/-- A controller with the cluster and with the journal, the last entry first. -/
structure Desk (σ : Type) where
  controller : Controller
  cluster : σ
  journal : List Desk.Entry := []

namespace Desk

open Controller

variable {σ : Type}

/-- Something that is done, or that happens to the cluster. -/
inductive Event (σ : Type) where
  /-- A blog is handed over, and the round for its key is run in an environment. -/
  | hand (ghost : Ghost) (now : Instant) (environment : Environment σ)
  /-- A failure about a blog is settled. -/
  | settle (ghost : Ghost) (failure : Failure)
  /-- The cluster changes. -/
  | change (cluster : σ)

/-- A controller that has not done anything yet. -/
def opened (config : Config) (cluster : σ) : Desk σ where
  controller := .ofConfig config
  cluster

/-- What an event makes of a desk. -/
def undergo (desk : Desk σ) : Event σ → Desk σ
  | .hand ghost now environment =>
    let attempt := desk.controller.attempt environment now ghost desk.cluster
    { controller := attempt.controller
      cluster := attempt.state
      journal := entryOf ghost attempt.result :: desk.journal }
  | .settle ghost failure =>
    let (delay, _, controller) := desk.controller.failed ghost failure
    { desk with controller, journal := .settled ghost delay :: desk.journal }
  | .change cluster => { desk with cluster }

/-- What a history makes of a desk. -/
def through (desk : Desk σ) (history : List (Event σ)) : Desk σ :=
  history.foldl undergo desk

@[simp] theorem through_cons (desk : Desk σ) (event : Event σ) (history : List (Event σ)) :
    desk.through (event :: history) = (desk.undergo event).through history := rfl

/-- What may be done next: a blog is handed over under a key without a failure that has yet to be
settled, and a failure that has yet to be settled is, with its blog. -/
def Allows (desk : Desk σ) : Event σ → Prop
  | .hand ghost _ _ => pending? (keyOf ghost) desk.journal = none
  | .settle ghost failure => pending? (keyOf ghost) desk.journal = some (ghost, failure)
  | .change _ => True

/-- A history in which everything may be done when it is done. -/
def Proper : Desk σ → List (Event σ) → Prop
  | _, [] => True
  | desk, event :: history => desk.Allows event ∧ (desk.undergo event).Proper history

/-! ### The count is kept -/

/-- What a controller remembers agrees with the journal: the configuration is that of the beginning,
and the count under a key is the number of failures that have been settled since a success, up to
the ceiling. -/
structure Kept (config : Config) (desk : Desk σ) : Prop where
  resync : desk.controller.config.resyncInterval = config.resyncInterval
  initial : desk.controller.backoff.initial = config.backoffInitial
  max : desk.controller.backoff.max = config.backoffMax
  counts (key : Key) :
    ∃ settled, failedSince key desk.journal =
        settled + (pending? key desk.journal).isSome.toNat ∧
      (desk.controller.backoff.failures key).toNat = min settled Backoff.ceiling

theorem kept_opened (config : Config) (cluster : σ) : (opened config cluster).Kept config where
  resync := rfl
  initial := rfl
  max := rfl
  counts _ := ⟨0, rfl, rfl⟩

section Step

variable {config : Config} {desk : Desk σ}

/-- The count of a key without a failure that has yet to be settled. -/
theorem Kept.count_of_none (hkept : desk.Kept config) {key : Key}
    (hpending : pending? key desk.journal = none) :
    (desk.controller.backoff.failures key).toNat =
      min (failedSince key desk.journal) Backoff.ceiling := by
  obtain ⟨settled, hsince, hcount⟩ := hkept.counts key
  rw [hpending] at hsince
  rw [hcount, hsince]
  rfl

/-- The count of a key with a failure that has yet to be settled does not include it. -/
theorem Kept.count_of_some (hkept : desk.Kept config) {key : Key} {waiting : Ghost × Failure}
    (hpending : pending? key desk.journal = some waiting) :
    ∃ before, failedSince key desk.journal = before + 1 ∧
      (desk.controller.backoff.failures key).toNat = min before Backoff.ceiling := by
  obtain ⟨before, hsince, hcount⟩ := hkept.counts key
  rw [hpending] at hsince
  exact ⟨before, hsince, hcount⟩

/-- The wait that belongs to a number of failures. -/
theorem Kept.nanoseconds_delay (hkept : desk.Kept config) {count : UInt32} {before : Nat}
    (hcount : count.toNat = min before Backoff.ceiling) :
    (desk.controller.backoff.delay count).nanoseconds =
      min (config.backoffInitial.nanoseconds * Nat.pow 2 (min before 16))
        config.backoffMax.nanoseconds := by
  have hsixteen : min (min before Backoff.ceiling) 16 = min before 16 := by
    unfold Backoff.ceiling
    omega
  rw [Backoff.nanoseconds_delay, hcount, hsixteen, hkept.initial, hkept.max]

/-- A success starts the count of its key again, and a failure waits to be settled. -/
theorem Kept.hand (hkept : desk.Kept config) {ghost : Ghost} {now : Instant}
    {environment : Environment σ} (hallows : desk.Allows (.hand ghost now environment)) :
    (desk.undergo (.hand ghost now environment)).Kept config := by
  cases hresult : ((reconcile (keyOf ghost) now).run environment desk.cluster).result with
  | error failure =>
    obtain ⟨hfailed, hsame⟩ := desk.controller.attempt_of_error hresult
    refine ⟨?_, ?_, ?_, fun key ↦ ?_⟩
    · simpa only [undergo, hsame] using hkept.resync
    · simpa only [undergo, hsame] using hkept.initial
    · simpa only [undergo, hsame] using hkept.max
    · simp only [undergo, hfailed, hsame, entryOf, failedSince, pending?]
      by_cases hkey : keyOf ghost = key
      · subst hkey
        rw [if_pos rfl, if_pos rfl]
        exact ⟨_, rfl, hkept.count_of_none hallows⟩
      · rw [if_neg hkey, if_neg hkey]
        exact hkept.counts key
  | ok =>
    obtain ⟨hpassed, hreset⟩ := desk.controller.attempt_of_ok hresult
    refine ⟨?_, ?_, ?_, fun key ↦ ?_⟩
    · simpa only [undergo, hreset] using hkept.resync
    · simpa only [undergo, hreset, Backoff.reset] using hkept.initial
    · simpa only [undergo, hreset, Backoff.reset] using hkept.max
    · simp only [undergo, hpassed, hreset, entryOf, failedSince, pending?, Backoff.failures_reset]
      by_cases hkey : keyOf ghost = key
      · rw [if_pos hkey, if_pos hkey, if_pos hkey.symm]
        exact ⟨0, rfl, rfl⟩
      · rw [if_neg hkey, if_neg hkey, if_neg fun hsame ↦ hkey hsame.symm]
        exact hkept.counts key

/-- A failure that is settled is counted under its key. -/
theorem Kept.settle (hkept : desk.Kept config) {ghost : Ghost} {failure : Failure}
    (hallows : desk.Allows (.settle ghost failure)) :
    (desk.undergo (.settle ghost failure)).Kept config := by
  refine ⟨hkept.resync, hkept.initial, hkept.max, fun key ↦ ?_⟩
  simp only [undergo, Controller.failed, failedSince, pending?, Backoff.failures_nextDelay]
  by_cases hkey : keyOf ghost = key
  · subst hkey
    obtain ⟨before, hsince, hcount⟩ := hkept.count_of_some hallows
    refine ⟨before + 1, ?_, ?_⟩
    · rw [if_pos rfl, hsince]
      rfl
    · rw [if_pos rfl]
      exact Backoff.toNat_increased_of_min hcount
  · rw [if_neg hkey, if_neg fun hsame ↦ hkey hsame.symm]
    exact hkept.counts key

/-- Whatever may be done next keeps the count in step with the journal. -/
theorem Kept.undergo (hkept : desk.Kept config) {event : Event σ} (hallows : desk.Allows event) :
    (desk.undergo event).Kept config := by
  cases event with
  | hand ghost now environment => exact hkept.hand hallows
  | settle ghost failure => exact hkept.settle hallows
  | change cluster => exact ⟨hkept.resync, hkept.initial, hkept.max, hkept.counts⟩

theorem Kept.through (hkept : desk.Kept config) {history : List (Event σ)}
    (hproper : desk.Proper history) : (desk.through history).Kept config := by
  induction history generalizing desk with
  | nil => exact hkept
  | cons event history ih => exact ih (hkept.undergo hproper.1) hproper.2

end Step

/-! ### What is handed over serves only to know the key -/

/-- Blogs that go by the same name in the same namespace. The front of a name that has yet to be
given counts only where there is no name. -/
structure NamedAlike (first second : Ghost) : Prop where
  namespaceName : first.metadata.namespaceName = second.metadata.namespaceName
  name : first.metadata.name = second.metadata.name
  generateName : first.metadata.name = none →
    first.metadata.generateName = second.metadata.generateName

theorem NamedAlike.keyOf_eq {first second : Ghost} (halike : NamedAlike first second) :
    keyOf first = keyOf second := by
  have hteam : first.team = second.team := by
    unfold Ghost.team Metadata.namespaceOrEmpty
    rw [halike.namespaceName]
  have hname : first.metadata.displayName = second.metadata.displayName := by
    unfold Metadata.displayName
    rw [← halike.name]
    cases hgiven : first.metadata.name with
    | none => rw [halike.generateName hgiven]
    | some name => rfl
  unfold keyOf
  rw [hteam, hname]

/-- Events that differ at most in the blog that is handed over, and not in its name. -/
inductive Event.Alike : Event σ → Event σ → Prop
  | hand {first second : Ghost} (hnamed : NamedAlike first second) (now : Instant)
      (environment : Environment σ) :
      Alike (.hand first now environment) (.hand second now environment)
  | settle {first second : Ghost} (hnamed : NamedAlike first second) (failure : Failure) :
      Alike (.settle first failure) (.settle second failure)
  | change (cluster : σ) : Alike (.change cluster) (.change cluster)

/-- Desks that agree in all but the blogs that were handed over. -/
structure Agrees (first second : Desk σ) : Prop where
  controller : first.controller = second.controller
  cluster : first.cluster = second.cluster
  actions : first.journal.map Entry.action = second.journal.map Entry.action

theorem Agrees.undergo {first second : Desk σ} (hagrees : first.Agrees second)
    {event other : Event σ} (halike : event.Alike other) :
    (first.undergo event).Agrees (second.undergo other) := by
  obtain ⟨controller, cluster, journal⟩ := first
  obtain ⟨controller', cluster', journal'⟩ := second
  obtain ⟨rfl, rfl, hactions⟩ := hagrees
  cases halike with
  | @hand given given' hnamed now environment =>
    have hkey := hnamed.keyOf_eq
    have hattempt : controller.attempt environment now given cluster =
        controller.attempt environment now given' cluster := by
      unfold attempt
      rw [hkey]
    have hentry (result : Except Failure Duration) :
        (entryOf given result).action = (entryOf given' result).action := by
      cases result with
      | ok after => simp only [entryOf, Entry.action, hkey]
      | error failure => simp only [entryOf, Entry.action, hkey]
    refine ⟨?_, ?_, ?_⟩
    · simp only [Desk.undergo, hattempt]
    · simp only [Desk.undergo, hattempt]
    · simp only [Desk.undergo, hattempt, List.map_cons, hentry]
      exact congrArg _ hactions
  | @settle given given' hnamed failure =>
    have hkey := hnamed.keyOf_eq
    have hfailed : controller.failed given failure = controller.failed given' failure := by
      unfold Controller.failed
      rw [hkey]
    refine ⟨?_, rfl, ?_⟩
    · simp only [Desk.undergo, hfailed]
    · simp only [Desk.undergo, hfailed, List.map_cons, Entry.action, hkey]
      exact congrArg _ hactions
  | change cluster => exact ⟨rfl, rfl, hactions⟩

/-- Histories that differ only in the blogs handed over, and not in their names, come to the
same. -/
theorem through_alike {first second : Desk σ} (hagrees : first.Agrees second)
    {history other : List (Event σ)} (halike : List.Forall₂ Event.Alike history other) :
    (first.through history).Agrees (second.through other) := by
  induction halike generalizing first second with
  | nil => exact hagrees
  | cons hevent hrest ih => exact ih (hagrees.undergo hevent)

end Desk

/-! ### The account -/

/-- After any proper history, whatever the cluster has done, the count under a key whose failures
are all settled is the number of rounds that have failed since one succeeded, up to the ceiling.

A blog that is handed over next is due again after the resync interval if its round succeeds, as it
does where the blog is gone, and this forgets the failures of its key and of no other; a round that
fails leaves all counts as they are. A failure that is settled next is tried again after the wait
that belongs to the failures before it, and this adds one to the count of its key only. Other blogs
of the same names, handed over in place of these, would have come to the same. -/
theorem retries_accounted {σ : Type} (config : Config) (cluster : σ)
    {history : List (Desk.Event σ)} (hproper : (Desk.opened config cluster).Proper history) :
    let desk := (Desk.opened config cluster).through history
    (∀ key, Desk.pending? key desk.journal = none →
      (desk.controller.backoff.failures key).toNat =
        min (Desk.failedSince key desk.journal) 4294967295) ∧
    (∀ ghost now environment, desk.Allows (.hand ghost now environment) →
      let round := (reconcile (Controller.keyOf ghost) now).run environment desk.cluster
      let attempt := desk.controller.attempt environment now ghost desk.cluster
      ((environment.answer (.readGhost (Controller.keyOf ghost)) desk.cluster).1 = .ok none →
        round.result = .ok ()) ∧
      (round.result = .ok () → attempt.result = .ok config.resyncInterval ∧
        ∀ key, attempt.controller.backoff.failures key =
          if key = Controller.keyOf ghost then 0 else desk.controller.backoff.failures key) ∧
      ∀ failure, round.result = .error failure →
        attempt.result = .error failure ∧ attempt.controller = desk.controller) ∧
    (∀ ghost failure, desk.Allows (.settle ghost failure) →
      ∃ before, Desk.failedSince (Controller.keyOf ghost) desk.journal = before + 1 ∧
        let (delay, _, controller) := desk.controller.failed ghost failure
        delay.nanoseconds =
          min (config.backoffInitial.nanoseconds * Nat.pow 2 (min before 16))
            config.backoffMax.nanoseconds ∧
        (controller.backoff.failures (Controller.keyOf ghost)).toNat =
          min (before + 1) 4294967295 ∧
        ∀ key ≠ Controller.keyOf ghost, controller.backoff.failures key =
          desk.controller.backoff.failures key) ∧
    ∀ other, List.Forall₂ Desk.Event.Alike history other →
      desk.Agrees ((Desk.opened config cluster).through other) := by
  intro desk
  have hkept : desk.Kept config := (Desk.kept_opened config cluster).through hproper
  refine ⟨fun key hpending ↦ hkept.count_of_none hpending, ?_, ?_, fun other halike ↦
    Desk.through_alike ⟨rfl, rfl, rfl⟩ halike⟩
  · intro ghost now environment _ round attempt
    refine ⟨fun hgone ↦ ?_, fun hresult ↦ ?_, fun failure hresult ↦
      desk.controller.attempt_of_error hresult⟩
    · dsimp only [round]
      rw [run_reconcile]
      rcases hanswer : environment.answer (.readGhost (Controller.keyOf ghost)) desk.cluster with
        ⟨reply, after⟩
      rw [hanswer] at hgone
      dsimp only at hgone
      rw [hgone]
    · obtain ⟨hpassed, hreset⟩ := desk.controller.attempt_of_ok hresult
      refine ⟨hpassed.trans (congrArg _ hkept.resync), fun key ↦ ?_⟩
      dsimp only [attempt]
      rw [hreset, Backoff.failures_reset]
  · intro ghost failure hallows
    obtain ⟨before, hsince, hcount⟩ := hkept.count_of_some hallows
    refine ⟨before, hsince, hkept.nanoseconds_delay hcount, ?_, fun key hkey ↦ ?_⟩
    · have hown := desk.controller.backoff.failures_nextDelay (Controller.keyOf ghost)
        (Controller.keyOf ghost)
      rw [if_pos rfl] at hown
      exact (congrArg UInt32.toNat hown).trans (Backoff.toNat_increased_of_min hcount)
    · change (desk.controller.backoff.nextDelay (Controller.keyOf ghost)).2.failures key = _
      rw [Backoff.failures_nextDelay, if_neg hkey]

/-- The round for a blog fails twice, and the second failure is tried again after ten seconds. When
the lookups are answered again the round succeeds, is due again after five minutes, and the failures
are forgotten. With another specification in the blog that is handed over it comes to the same. -/
theorem retries_accounted_marketing :
    let blog (spec : GhostSpec) : Ghost := {
      metadata := { name := some "blog", namespaceName := some "marketing" }
      spec }
    let ghost := blog ⟨"5", 1, true⟩
    let healed := ({} : Memory).perform (.apply ghost)
    let broken := healed.perform (.setFault (.find .volumeClaim) (some "connection reset"))
    let failure : Failure := .api "connection reset"
    let history (given : Ghost) : List (Desk.Event Memory) :=
      [.hand given .epoch Memory.environment, .settle given failure,
        .hand given .epoch Memory.environment]
    let desk := (Desk.opened {} broken).through (history ghost)
    let settled := (Desk.opened {} broken).through
      (history ghost ++ [.settle ghost failure, .change healed])
    (desk.controller.failed ghost failure).1.nanoseconds = 10000000000 ∧
      (settled.controller.backoff.failures (Controller.keyOf ghost)).toNat = 2 ∧
      (settled.controller.attempt Memory.environment .epoch ghost settled.cluster).result =
        .ok (.ofSeconds 300) ∧
      desk.Agrees ((Desk.opened {} broken).through (history (blog ⟨"4", 7, false⟩))) := by
  intro blog ghost healed broken failure history desk settled
  have hnamed : Desk.NamedAlike ghost (blog ⟨"4", 7, false⟩) := ⟨rfl, rfl, fun _ ↦ rfl⟩
  have halike : List.Forall₂ Desk.Event.Alike (history ghost) (history (blog ⟨"4", 7, false⟩)) :=
    .cons (.hand hnamed _ _) (.cons (.settle hnamed _) (.cons (.hand hnamed _ _) .nil))
  have hproper : (Desk.opened {} broken).Proper
      (history ghost ++ [.settle ghost failure, .change healed]) := by
    dsimp only [history, failure, broken, healed, ghost, blog]
    exact ⟨rfl, rfl, rfl, rfl, trivial, trivial⟩
  have hproper' : (Desk.opened {} broken).Proper (history ghost) :=
    ⟨hproper.1, hproper.2.1, hproper.2.2.1, trivial⟩
  have hpending : desk.Allows (.settle ghost failure) := hproper.2.2.2.1
  have hnone : Desk.pending? (Controller.keyOf ghost) settled.journal = none := by
    dsimp only [settled, history, failure, broken, healed, ghost, blog]
    rfl
  obtain ⟨-, -, hdelay, hsame⟩ := retries_accounted {} broken hproper'
  obtain ⟨hcount, hpassed, -, -⟩ := retries_accounted {} broken hproper
  obtain ⟨before, hbefore, hwait, -⟩ := hdelay ghost failure hpending
  obtain ⟨-, hresync, -⟩ := hpassed ghost .epoch Memory.environment hnone
  have hcounted := hcount _ hnone
  -- The rounds are worked out only once they are written out.
  dsimp only [settled, desk, history, failure, broken, healed, ghost, blog] at *
  obtain rfl : before = 1 := (Nat.succ.inj hbefore).symm
  exact ⟨hwait, hcounted, (hresync rfl).1, hsame _ halike⟩

end BlogOperator
