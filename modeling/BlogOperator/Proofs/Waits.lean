import BlogOperator.Proofs.Retries
import Mathlib.Data.List.Induction

/-!
# Waits in closed form

A `Backoff` is asked for waits, told of successes and asked for its counts, under any keys and in
any order. `Backoff.Operation` lists these, and `Operation.failedSince` is the number of waits that
have been asked for under a key since a success was last reported under it. That number decides
everything: the count of the key is it, up to the ceiling (`failures_through`), and the next wait is
the first one doubled once for each, sixteen times at most, unless the longest one is shorter
(`nanoseconds_nextDelay`). What is done under other keys has no part in it
(`failedSince_filter`).

The waits are natural numbers of nanoseconds in all this. `Backoff.delayInWords` works a wait out in
words of 32 and 64 bits instead: the factor is a shifted one, the nanoseconds beyond the whole
seconds are multiplied in one word and carry into the seconds, and where the seconds leave their
word the longest wait is taken. `delayInWords_eq` says that both come to the same, so that nothing
overflows on the way.

`waits_accounted` puts this together, and adds that under an accepted configuration the waits after
failures in a row do not get shorter and stay within the configured bounds. How far they double is
another question: `doubles_iff` answers it. They double up to the longest wait only where that is
at most 65536 times the first one, and stop short of it otherwise (`doubling_stops_short`).
-/

set_option autoImplicit false

namespace BlogOperator

open BlogOperator.Number BlogOperator.Time

/-! ### Arithmetic in words -/

namespace Number

/-- The product of two words, if it fits in a word. -/
def wordProduct? (first second : UInt64) : Option UInt64 :=
  if first.toNat * second.toNat < UInt64.size then some (first * second) else none

/-- The sum of two words, if it fits in a word. -/
def wordSum? (first second : UInt64) : Option UInt64 :=
  if first.toNat + second.toNat < UInt64.size then some (first + second) else none

theorem toNat_wordProduct {first second product : UInt64}
    (hproduct : wordProduct? first second = some product) :
    product.toNat = first.toNat * second.toNat := by
  unfold wordProduct? at hproduct
  split at hproduct
  · rename_i hfits
    cases hproduct
    rw [UInt64.toNat_mul]
    exact Nat.mod_eq_of_lt hfits
  · cases hproduct

theorem toNat_wordSum {first second sum : UInt64} (hsum : wordSum? first second = some sum) :
    sum.toNat = first.toNat + second.toNat := by
  unfold wordSum? at hsum
  split at hsum
  · rename_i hfits
    cases hsum
    rw [UInt64.toNat_add]
    exact Nat.mod_eq_of_lt hfits
  · cases hsum

theorem le_of_wordProduct {first second : UInt64} (hproduct : wordProduct? first second = none) :
    UInt64.size ≤ first.toNat * second.toNat := by
  unfold wordProduct? at hproduct
  split at hproduct
  · cases hproduct
  · rename_i hfits
    exact Nat.le_of_not_lt hfits

theorem le_of_wordSum {first second : UInt64} (hsum : wordSum? first second = none) :
    UInt64.size ≤ first.toNat + second.toNat := by
  unfold wordSum? at hsum
  split at hsum
  · cases hsum
  · rename_i hfits
    exact Nat.le_of_not_lt hfits

end Number

namespace Time.Duration

/-- A duration repeated `times` times, worked out in words. The nanoseconds beyond the whole seconds
are repeated in one word, and the whole seconds in it carry; there is no result where the seconds
do not fit in theirs. -/
def scaledInWords? (duration : Duration) (times : UInt32) : Option Duration :=
  let total := UInt64.ofNat duration.nanos * times.toUInt64
  match wordProduct? (UInt64.ofNat duration.seconds) times.toUInt64 with
  | none => none
  | some whole =>
    match wordSum? whole (total / 1000000000) with
    | none => none
    | some seconds => ofParts? seconds (total % 1000000000).toUInt32

/-- Working a repetition out in words gives what the unbounded product gives. -/
theorem scaledInWords?_eq (duration : Duration) (times : UInt32) :
    duration.scaledInWords? times = duration.scaled? times.toNat := by
  have htimes : times.toNat < 4294967296 := times.toNat_lt
  have hnanos : duration.nanos < 1000000000 := duration.nanos_lt
  have hproduct : duration.nanos * times.toNat < 1000000000 * 4294967296 :=
    Nat.mul_lt_mul'' hnanos htimes
  have htotal : (UInt64.ofNat duration.nanos * times.toUInt64).toNat =
      duration.nanos * times.toNat := by
    have hsmall : duration.nanos < UInt64.size := by
      unfold UInt64.size
      omega
    have hword : (UInt64.ofNat duration.nanos).toNat = duration.nanos :=
      UInt64.toNat_ofNat_of_lt hsmall
    rw [UInt64.toNat_mul, hword, UInt32.toNat_toUInt64]
    omega
  have hrepeated : duration.nanoseconds * times.toNat =
      duration.seconds * times.toNat * nanosPerSecond + duration.nanos * times.toNat := by
    rw [nanoseconds_eq, Nat.add_mul, Nat.mul_right_comm]
  have hcarry : (UInt64.ofNat duration.nanos * times.toUInt64 / 1000000000).toNat =
      duration.nanos * times.toNat / nanosPerSecond := by
    rw [UInt64.toNat_div, htotal, show (1000000000 : UInt64).toNat = nanosPerSecond from rfl]
  have hrest : (UInt64.ofNat duration.nanos * times.toUInt64 % 1000000000).toUInt32.toNat =
      duration.nanos * times.toNat % nanosPerSecond := by
    rw [UInt64.toNat_toUInt32, UInt64.toNat_mod, htotal,
      show (1000000000 : UInt64).toNat = nanosPerSecond from rfl]
    unfold nanosPerSecond
    omega
  unfold scaledInWords? scaled?
  rw [hrepeated]
  -- Where the seconds leave their word, the whole duration is out of range.
  cases hwhole : wordProduct? (UInt64.ofNat duration.seconds) times.toUInt64 with
  | none =>
    have hlarge := le_of_wordProduct hwhole
    rw [toNat_seconds, UInt32.toNat_toUInt64] at hlarge
    refine (ofNanoseconds?_eq_none.2 ?_).symm
    exact Nat.le_add_right_of_le (Nat.mul_le_mul_right _ hlarge)
  | some whole =>
    have hwholeNat := toNat_wordProduct hwhole
    rw [toNat_seconds, UInt32.toNat_toUInt64] at hwholeNat
    dsimp only
    cases hsum : wordSum? whole
        (UInt64.ofNat duration.nanos * times.toUInt64 / 1000000000) with
    | none =>
      have hlarge := le_of_wordSum hsum
      rw [hwholeNat, hcarry] at hlarge
      refine (ofNanoseconds?_eq_none.2 ?_).symm
      have hscaled := Nat.mul_le_mul_right nanosPerSecond hlarge
      have hdivides := Nat.div_mul_le_self (duration.nanos * times.toNat) nanosPerSecond
      rw [Nat.add_mul] at hscaled
      exact Nat.le_trans hscaled (Nat.add_le_add_left hdivides _)
    | some sum =>
      have hsumNat := toNat_wordSum hsum
      rw [hwholeNat, hcarry] at hsumNat
      dsimp only
      unfold ofParts?
      rw [hsumNat, hrest, Nat.add_mul, Nat.add_assoc, Nat.div_add_mod']

end Time.Duration

namespace Backoff

/-- The wait after a failure with so many others before it, worked out in words. -/
def delayInWords (backoff : Backoff) (before : UInt32) : Duration :=
  match backoff.initial.scaledInWords? (1 <<< min before 16) with
  | some wait => wait.shorter backoff.max
  | none => backoff.max

theorem toNat_shifted (before : UInt32) :
    ((1 : UInt32) <<< min before 16).toNat = Nat.pow 2 (min before.toNat 16) := by
  have hmin : (min before 16).toNat = min before.toNat 16 := by
    by_cases hsmall : before ≤ 16
    · have hsmallNat : before.toNat ≤ 16 := UInt32.le_iff_toNat_le.1 hsmall
      rw [Nat.min_eq_left hsmallNat]
      exact congrArg UInt32.toNat (if_pos hsmall)
    · have hlargeNat : 16 ≤ before.toNat :=
        Nat.le_of_not_le fun hle ↦ hsmall (UInt32.le_iff_toNat_le.2 hle)
      rw [Nat.min_eq_right hlargeNat]
      exact congrArg UInt32.toNat (if_neg hsmall)
  have hbound : min before.toNat 16 < 32 := Nat.lt_of_le_of_lt (Nat.min_le_right _ _) (by decide)
  have hfits : Nat.pow 2 (min before.toNat 16) < Nat.pow 2 32 :=
    Nat.pow_lt_pow_right (by decide) hbound
  rw [UInt32.toNat_shiftLeft, hmin, Nat.mod_eq_of_lt hbound, Nat.shiftLeft_eq]
  change 1 * Nat.pow 2 (min before.toNat 16) % Nat.pow 2 32 = Nat.pow 2 (min before.toNat 16)
  rw [Nat.one_mul, Nat.mod_eq_of_lt hfits]

/-- Nothing overflows when a wait is worked out. -/
theorem delayInWords_eq (backoff : Backoff) (before : UInt32) :
    backoff.delayInWords before = backoff.delay before := by
  have hscaled : backoff.initial.scaledInWords? (1 <<< min before 16) =
      backoff.initial.scaled? (Nat.pow 2 (min before.toNat doublings)) := by
    rw [Duration.scaledInWords?_eq, toNat_shifted, doublings]
  unfold delayInWords delay
  generalize backoff.initial.scaled? (Nat.pow 2 (min before.toNat doublings)) = wait at hscaled ⊢
  subst hscaled
  cases backoff.initial.scaledInWords? (1 <<< min before 16) with
  | none => rfl
  | some wait => rfl

end Backoff

/-! ### Histories of a backoff -/

namespace Backoff

/-- Something that is done with a backoff. -/
inductive Operation where
  /-- A failure is counted, and the wait after it is asked for. -/
  | fail (key : Key)
  /-- The failures are forgotten. -/
  | reset (key : Key)
  /-- The count is asked for. -/
  | count (key : Key)
  deriving DecidableEq

namespace Operation

/-- The key under which something is done. -/
def key : Operation → Key
  | fail key => key
  | reset key => key
  | count key => key

/-- The failures that have been counted under a key since they were last forgotten. -/
def failedSince (key : Key) (operations : List Operation) : Nat :=
  (operations.reverse.takeWhile fun operation ↦ operation ≠ reset key).count (fail key)

variable {key : Key} {operations : List Operation}

@[simp] theorem failedSince_nil (key : Key) : failedSince key [] = 0 := rfl

theorem failedSince_concat_reset (key : Key) (operations : List Operation) :
    failedSince key (operations ++ [reset key]) = 0 := by
  simp [failedSince]

theorem failedSince_concat_fail (key : Key) (operations : List Operation) :
    failedSince key (operations ++ [fail key]) = failedSince key operations + 1 := by
  simp [failedSince]

/-- Anything else leaves the number as it is. -/
theorem failedSince_concat {operation : Operation} (hfail : operation ≠ fail key)
    (hreset : operation ≠ reset key) :
    failedSince key (operations ++ [operation]) = failedSince key operations := by
  simp [failedSince, hfail, hreset]

/-- A failure does not forget the failures before it. -/
theorem reset_not_mem_fail_cons {others : List Operation} (hreset : reset key ∉ others) :
    reset key ∉ fail key :: others := by
  intro hmem
  rcases List.mem_cons.1 hmem with hsame | hlater
  · cases hsame
  · exact hreset hlater

/-- As long as the failures are not forgotten, those that are counted add up. -/
theorem failedSince_append {others : List Operation} (hreset : reset key ∉ others) :
    failedSince key (operations ++ others) =
      failedSince key operations + others.count (fail key) := by
  have hkept : ∀ operation ∈ others.reverse, decide (operation ≠ reset key) = true := by
    intro operation hmem
    refine decide_eq_true fun hsame ↦ hreset ?_
    exact hsame ▸ List.mem_reverse.1 hmem
  unfold failedSince
  rw [List.reverse_append, List.takeWhile_append_of_pos hkept, List.count_append,
    List.count_reverse, Nat.add_comm]

/-- Failures in a row. -/
theorem failedSince_replicate (key : Key) (times : Nat) :
    failedSince key (List.replicate times (fail key)) = times := by
  have hreset : reset key ∉ List.replicate times (fail key) := by
    intro hmem
    cases List.eq_of_mem_replicate hmem
  have happend : failedSince key ([] ++ List.replicate times (fail key)) = _ :=
    failedSince_append hreset
  rw [List.nil_append, List.count_replicate_self, failedSince_nil, Nat.zero_add] at happend
  exact happend

/-- What is done under other keys has no part in the number. -/
theorem failedSince_filter (key : Key) (operations : List Operation) :
    failedSince key (operations.filter fun operation ↦ operation.key = key) =
      failedSince key operations := by
  induction operations using List.reverseRecOn with
  | nil => rfl
  | append_singleton operations operation ih =>
    rw [List.filter_append, List.filter_singleton]
    by_cases hkey : operation.key = key
    · rw [decide_eq_true hkey]
      by_cases hfail : operation = fail key
      · rw [hfail]
        change failedSince key (_ ++ [fail key]) = _
        rw [failedSince_concat_fail, failedSince_concat_fail, ih]
      · by_cases hreset : operation = reset key
        · rw [hreset]
          change failedSince key (_ ++ [reset key]) = _
          rw [failedSince_concat_reset, failedSince_concat_reset]
        · change failedSince key (_ ++ [operation]) = _
          rw [failedSince_concat hfail hreset, failedSince_concat hfail hreset, ih]
    · have hfail : operation ≠ fail key := fun hsame ↦ hkey (hsame ▸ rfl)
      have hreset : operation ≠ reset key := fun hsame ↦ hkey (hsame ▸ rfl)
      rw [decide_eq_false hkey, failedSince_concat hfail hreset]
      change failedSince key (_ ++ []) = _
      rw [List.append_nil, ih]

end Operation

/-- A backoff that has not counted anything yet. -/
def opened (initial max : Duration) : Backoff where
  initial
  max

/-- What an operation makes of a backoff. Asking for a count changes nothing. -/
def undergo (backoff : Backoff) : Operation → Backoff
  | .fail key => (backoff.nextDelay key).2
  | .reset key => backoff.reset key
  | .count _ => backoff

/-- What operations one after another make of a backoff. -/
def through (backoff : Backoff) (operations : List Operation) : Backoff :=
  operations.foldl undergo backoff

@[simp] theorem through_concat (backoff : Backoff) (operations : List Operation)
    (operation : Operation) :
    backoff.through (operations ++ [operation]) = (backoff.through operations).undergo operation :=
  List.foldl_concat ..

/-- The bounds of the wait stay what they are. -/
theorem bounds_through (backoff : Backoff) (operations : List Operation) :
    (backoff.through operations).initial = backoff.initial ∧
      (backoff.through operations).max = backoff.max := by
  induction operations using List.reverseRecOn with
  | nil => exact ⟨rfl, rfl⟩
  | append_singleton operations operation ih =>
    rw [through_concat]
    cases operation with
    | fail key => exact ih
    | reset key => exact ih
    | count key => exact ih

/-- The count of a key after one more operation. -/
theorem failures_undergo (backoff : Backoff) (operation : Operation) (key : Key) :
    (backoff.undergo operation).failures key =
      if operation = .fail key then increased (backoff.failures key)
      else if operation = .reset key then 0
      else backoff.failures key := by
  cases operation with
  | fail other =>
    change (backoff.nextDelay other).2.failures key = _
    rw [failures_nextDelay]
    by_cases hkey : key = other
    · subst hkey
      simp
    · have hother : other ≠ key := fun hsame ↦ hkey hsame.symm
      simp [hkey, hother]
  | reset other =>
    change (backoff.reset other).failures key = _
    rw [failures_reset]
    by_cases hkey : key = other
    · subst hkey
      simp
    · have hother : other ≠ key := fun hsame ↦ hkey hsame.symm
      simp [hkey, hother]
  | count other => simp [undergo]

section History

variable (initial max : Duration) (operations : List Operation) (key : Key)

/-- The count of a key is the number of failures since it was last forgotten, up to the ceiling. -/
theorem failures_through :
    (((opened initial max).through operations).failures key).toNat =
      min (Operation.failedSince key operations) ceiling := by
  induction operations using List.reverseRecOn with
  | nil => rfl
  | append_singleton operations operation ih =>
    rw [through_concat, failures_undergo]
    by_cases hfail : operation = .fail key
    · rw [if_pos hfail, hfail, Operation.failedSince_concat_fail]
      exact toNat_increased_of_min ih
    · rw [if_neg hfail]
      by_cases hreset : operation = .reset key
      · rw [if_pos hreset, hreset, Operation.failedSince_concat_reset]
        rfl
      · rw [if_neg hreset, Operation.failedSince_concat hfail hreset]
        exact ih

/-- The next wait under a key in nanoseconds. -/
theorem nanoseconds_nextDelay :
    (((opened initial max).through operations).nextDelay key).1.nanoseconds =
      min (initial.nanoseconds * Nat.pow 2 (min (Operation.failedSince key operations) 16))
        max.nanoseconds := by
  obtain ⟨hinitial, hmax⟩ := bounds_through (opened initial max) operations
  have hcount := failures_through initial max operations key
  have hsixteen : min (min (Operation.failedSince key operations) ceiling) 16 =
      min (Operation.failedSince key operations) 16 := by
    unfold ceiling
    omega
  change (((opened initial max).through operations).delay _).nanoseconds = _
  rw [nanoseconds_delay, hcount, hsixteen, hinitial, hmax]
  rfl

end History

end Backoff

/-! ### Waits under an accepted configuration -/

open Backoff (Operation opened)

namespace Config

/-- An accepted configuration has a first wait, which is no longer than the longest. -/
theorem bounds_of_check {config : Config} (hcheck : config.check = .ok ()) :
    0 < config.backoffInitial.nanoseconds ∧ config.backoffInitial ≤ config.backoffMax := by
  rw [check_eq] at hcheck
  split at hcheck
  · cases hcheck
  split at hcheck
  · cases hcheck
  split at hcheck
  · cases hcheck
  rename_i hinitial
  split at hcheck
  · cases hcheck
  rename_i hinverted
  exact ⟨Nat.pos_of_ne_zero hinitial, Nat.le_of_not_lt hinverted⟩

/-- The wait after a failure under a key, when a controller with this configuration has gone through
some operations. -/
def waitAfter (config : Config) (operations : List Operation) (key : Key) : Duration :=
  (((Controller.ofConfig config).backoff.through operations).nextDelay key).1

variable (config : Config) (operations : List Operation) (key : Key)

theorem nanoseconds_waitAfter :
    (config.waitAfter operations key).nanoseconds =
      min (config.backoffInitial.nanoseconds *
          Nat.pow 2 (min (Operation.failedSince key operations) 16))
        config.backoffMax.nanoseconds :=
  Backoff.nanoseconds_nextDelay config.backoffInitial config.backoffMax operations key

/-- A wait that follows another one under its key, without a success between them, is at least as
long. -/
theorem waitAfter_le {others : List Operation} (hreset : .reset key ∉ others) :
    config.waitAfter operations key ≤ config.waitAfter (operations ++ others) key := by
  have hmore : min (Operation.failedSince key operations) 16 ≤
      min (Operation.failedSince key (operations ++ others)) 16 := by
    rw [Operation.failedSince_append hreset]
    omega
  have hfactor := Nat.pow_le_pow_right (show 0 < 2 by decide) hmore
  rw [Duration.le_def, nanoseconds_waitAfter, nanoseconds_waitAfter]
  refine Nat.le_min.2 ⟨?_, Nat.min_le_right _ _⟩
  exact Nat.le_trans (Nat.min_le_left _ _) (Nat.mul_le_mul_left _ hfactor)

/-- Under an accepted configuration every wait lies within the configured bounds. -/
theorem waitAfter_mem {config : Config} (hcheck : config.check = .ok ()) :
    config.backoffInitial ≤ config.waitAfter operations key ∧
      config.waitAfter operations key ≤ config.backoffMax := by
  obtain ⟨-, hbounds⟩ := bounds_of_check hcheck
  have hfactor : 0 < Nat.pow 2 (min (Operation.failedSince key operations) 16) :=
    Nat.pow_pos (by decide)
  rw [Duration.le_def, Duration.le_def, nanoseconds_waitAfter]
  constructor
  · exact Nat.le_min.2 ⟨Nat.le_mul_of_pos_right _ hfactor, hbounds⟩
  · exact Nat.min_le_right _ _

end Config

/-- Whatever is done with a backoff, a wait after `before` failures under its key since the last
success is the first one times two to the power of `before`, or of 16 if that is less, and the
longest wait if that is shorter, as computed without bounds; in words it comes to the same. The
count is `before` up to the largest word. What is done under other keys has no part in either.
Assumes, for the rest: an accepted configuration. Then a wait lies between the bounds, of which the
first is not zero, and a later one before the next success is at least as long. -/
theorem waits_accounted (operations : List Operation) (key : Key) :
    (∀ initial max : Duration,
      let backoff := (opened initial max).through operations
      let alone := (opened initial max).through
        (operations.filter fun operation ↦ operation.key = key)
      let before := Operation.failedSince key operations
      (backoff.nextDelay key).1.nanoseconds =
          min (initial.nanoseconds * Nat.pow 2 (min before 16)) max.nanoseconds ∧
        (backoff.nextDelay key).1 = backoff.delayInWords (backoff.failures key) ∧
        (backoff.failures key).toNat = min before 4294967295 ∧
        (alone.nextDelay key).1 = (backoff.nextDelay key).1 ∧
        alone.failures key = backoff.failures key) ∧
    ∀ config : Config, config.check = .ok () →
      let wait := config.waitAfter operations key
      0 < config.backoffInitial.nanoseconds ∧ config.backoffInitial ≤ wait ∧
        wait ≤ config.backoffMax ∧
        ∀ others : List Operation, .reset key ∉ others →
          wait ≤ config.waitAfter (operations ++ .fail key :: others) key := by
  constructor
  · intro initial max backoff alone before
    have hwait := Backoff.nanoseconds_nextDelay initial max operations key
    have hcount := Backoff.failures_through initial max operations key
    have hwaitAlone := Backoff.nanoseconds_nextDelay initial max
      (operations.filter fun operation ↦ operation.key = key) key
    have hcountAlone := Backoff.failures_through initial max
      (operations.filter fun operation ↦ operation.key = key) key
    rw [Operation.failedSince_filter] at hwaitAlone hcountAlone
    refine ⟨hwait, (backoff.delayInWords_eq _).symm, hcount, ?_, ?_⟩
    · exact Duration.ext (hwaitAlone.trans hwait.symm)
    · exact UInt32.toNat.inj (hcountAlone.trans hcount.symm)
  · intro config hcheck wait
    obtain ⟨hlow, hhigh⟩ := Config.waitAfter_mem operations key hcheck
    refine ⟨(Config.bounds_of_check hcheck).1, hlow, hhigh, fun others hreset ↦ ?_⟩
    exact config.waitAfter_le operations key (Operation.reset_not_mem_fail_cons hreset)

/-- Three failures of one blog, with a failure and a success of another one between them, under the
configuration that a controller has unless it is told otherwise. The next wait is eight times the
first, and the one after it, with only other blogs between, is no shorter. -/
theorem waits_accounted_marketing :
    let blog : Key := ⟨"marketing", "blog"⟩
    let shop : Key := ⟨"sales", "shop"⟩
    let operations : List Operation :=
      [.fail blog, .fail shop, .fail blog, .reset shop, .count blog, .fail blog]
    let others : List Operation := [.fail shop, .reset shop, .count blog]
    let config : Config := {}
    config.check = .ok () ∧ .reset blog ∉ others ∧
      (((opened (.ofSeconds 5) (.ofSeconds 300)).through operations).nextDelay blog).1.nanoseconds =
        40000000000 ∧
      config.backoffInitial ≤ config.waitAfter operations blog ∧
      config.waitAfter operations blog ≤
        config.waitAfter (operations ++ .fail blog :: others) blog := by
  intro blog shop operations others config
  have hcheck : config.check = .ok () := rfl
  have hreset : Operation.reset blog ∉ others := by decide
  have hthree : Operation.failedSince blog operations = 3 := by decide
  obtain ⟨hall, haccepted⟩ := waits_accounted operations blog
  obtain ⟨hwait, -⟩ := hall (.ofSeconds 5) (.ofSeconds 300)
  obtain ⟨-, hlow, -, hlater⟩ := haccepted config hcheck
  refine ⟨hcheck, hreset, ?_, hlow, hlater others hreset⟩
  rw [hwait, hthree]
  rfl

/-! ### How far the waits double -/

namespace Config

/-- Each wait after failures in a row is twice the one before it, or the longest one if that is
shorter. -/
def DoublesToMax (config : Config) : Prop :=
  ∀ (operations others : List Operation) (key : Key), .fail key ∉ others → .reset key ∉ others →
    (config.waitAfter (operations ++ .fail key :: others) key).nanoseconds =
      min (2 * (config.waitAfter operations key).nanoseconds) config.backoffMax.nanoseconds

/-- After enough failures in a row every wait is the longest one. -/
def ReachesMax (config : Config) : Prop :=
  ∃ enough, ∀ (operations : List Operation) (key : Key),
    enough ≤ Operation.failedSince key operations →
      config.waitAfter operations key = config.backoffMax

variable {config : Config} {operations others : List Operation} {key : Key}

/-- One more failure doubles the wait up to the longest one, if there have not been sixteen before
it, and makes no difference otherwise. -/
theorem nanoseconds_waitAfter_fail (config : Config) (hfail : .fail key ∉ others)
    (hreset : .reset key ∉ others) :
    (config.waitAfter (operations ++ .fail key :: others) key).nanoseconds =
      if Operation.failedSince key operations < 16 then
        min (2 * (config.waitAfter operations key).nanoseconds) config.backoffMax.nanoseconds
      else (config.waitAfter operations key).nanoseconds := by
  have hkept := Operation.reset_not_mem_fail_cons hreset
  have hnext : Operation.failedSince key (operations ++ .fail key :: others) =
      Operation.failedSince key operations + 1 := by
    rw [Operation.failedSince_append hkept, List.count_cons_self, List.count_eq_zero_of_not_mem hfail]
  rw [nanoseconds_waitAfter, nanoseconds_waitAfter, hnext]
  by_cases hfew : Operation.failedSince key operations < 16
  · have hpower : Nat.pow 2 (Operation.failedSince key operations + 1) =
        Nat.pow 2 (Operation.failedSince key operations) * 2 := rfl
    rw [if_pos hfew, Nat.min_eq_left hfew, Nat.min_eq_left (Nat.le_of_lt hfew), hpower,
      ← Nat.mul_assoc]
    omega
  · have hmany : 16 ≤ Operation.failedSince key operations := Nat.le_of_not_lt hfew
    rw [if_neg hfew, Nat.min_eq_right hmany, Nat.min_eq_right (Nat.le_succ_of_le hmany)]

/-- The wait after sixteen failures in a row or more. -/
theorem nanoseconds_waitAfter_sixteen (config : Config)
    (hmany : 16 ≤ Operation.failedSince key operations) :
    (config.waitAfter operations key).nanoseconds =
      min (65536 * config.backoffInitial.nanoseconds) config.backoffMax.nanoseconds := by
  rw [nanoseconds_waitAfter, Nat.min_eq_right hmany, Nat.mul_comm,
    show Nat.pow 2 16 = 65536 from rfl]

/-- A longest wait that is within 65536 times the first one is reached. -/
theorem ReachesMax.of_le
    (hwithin : config.backoffMax.nanoseconds ≤ 65536 * config.backoffInitial.nanoseconds) :
    config.ReachesMax := by
  refine ⟨16, fun operations key hmany ↦ Duration.ext ?_⟩
  rw [nanoseconds_waitAfter_sixteen config hmany]
  exact Nat.min_eq_right hwithin

/-- A longest wait that is reached is within 65536 times the first one. -/
theorem ReachesMax.le (hreaches : config.ReachesMax) :
    config.backoffMax.nanoseconds ≤ 65536 * config.backoffInitial.nanoseconds := by
  obtain ⟨enough, hreached⟩ := hreaches
  let failures : List Operation := List.replicate (max enough 16) (.fail default)
  have hcount : Operation.failedSince default failures = max enough 16 :=
    Operation.failedSince_replicate default _
  have hmany : 16 ≤ Operation.failedSince default failures := by omega
  have hlast := hreached failures default (by omega)
  have hwait := nanoseconds_waitAfter_sixteen config hmany
  rw [hlast] at hwait
  omega

/-- The waits double up to a longest one that is within 65536 times the first one. -/
theorem DoublesToMax.of_le
    (hwithin : config.backoffMax.nanoseconds ≤ 65536 * config.backoffInitial.nanoseconds) :
    config.DoublesToMax := by
  intro operations others key hfail hreset
  rw [nanoseconds_waitAfter_fail config hfail hreset]
  by_cases hfew : Operation.failedSince key operations < 16
  · exact if_pos hfew
  · rw [if_neg hfew, nanoseconds_waitAfter_sixteen config (Nat.le_of_not_lt hfew)]
    omega

/-- Where the waits double all the way, the longest one is within 65536 times the first: after
sixteen failures in a row one more makes no difference. -/
theorem DoublesToMax.le (hpositive : 0 < config.backoffInitial.nanoseconds)
    (hdoubles : config.DoublesToMax) :
    config.backoffMax.nanoseconds ≤ 65536 * config.backoffInitial.nanoseconds := by
  let failures : List Operation := List.replicate 16 (.fail default)
  have hcount : Operation.failedSince default failures = 16 :=
    Operation.failedSince_replicate default _
  have hfail : Operation.fail default ∉ ([] : List Operation) := List.not_mem_nil
  have hreset : Operation.reset default ∉ ([] : List Operation) := List.not_mem_nil
  have hnext : (config.waitAfter (failures ++ .fail default :: []) default).nanoseconds = _ :=
    nanoseconds_waitAfter_fail config hfail hreset
  have hlaw := hdoubles failures [] default hfail hreset
  rw [hnext, if_neg (by omega), nanoseconds_waitAfter_sixteen config (Nat.le_of_eq hcount.symm)]
    at hlaw
  omega

end Config

/-- Assumes: an accepted configuration. The waits after failures in a row double up to the longest
one, and get there, exactly if it is at most 65536 times the first. In any case a wait is twice the
one before it, or the longest if that is shorter, as long as there have not been sixteen failures
before; then the waits stay as they are. -/
theorem doubles_iff (config : Config) (hcheck : config.check = .ok ()) :
    (config.DoublesToMax ↔
        config.backoffMax.nanoseconds ≤ 65536 * config.backoffInitial.nanoseconds) ∧
      (config.ReachesMax ↔
        config.backoffMax.nanoseconds ≤ 65536 * config.backoffInitial.nanoseconds) ∧
      ∀ (operations others : List Operation) (key : Key), .fail key ∉ others →
        .reset key ∉ others →
        (config.waitAfter (operations ++ .fail key :: others) key).nanoseconds =
          if Operation.failedSince key operations < 16 then
            min (2 * (config.waitAfter operations key).nanoseconds) config.backoffMax.nanoseconds
          else (config.waitAfter operations key).nanoseconds := by
  obtain ⟨hpositive, -⟩ := Config.bounds_of_check hcheck
  refine ⟨⟨?_, ?_⟩, ⟨?_, ?_⟩, ?_⟩
  · exact Config.DoublesToMax.le hpositive
  · exact Config.DoublesToMax.of_le
  · exact Config.ReachesMax.le
  · exact Config.ReachesMax.of_le
  · intro operations others key hfail hreset
    exact Config.nanoseconds_waitAfter_fail config hfail hreset

/-- Unless a controller is told otherwise, its waits double up to five minutes. -/
theorem doubles_iff_default :
    ({} : Config).check = .ok () ∧ ({} : Config).DoublesToMax ∧ ({} : Config).ReachesMax := by
  have hcheck : ({} : Config).check = .ok () := rfl
  have hwithin : ({} : Config).backoffMax.nanoseconds ≤
      65536 * ({} : Config).backoffInitial.nanoseconds := by decide
  obtain ⟨hdoubles, hreaches, -⟩ := doubles_iff {} hcheck
  exact ⟨hcheck, hdoubles.2 hwithin, hreaches.2 hwithin⟩

/-- With a first wait of a second and a longest one of 100000 seconds, which is accepted, the waits
stop at 65536 seconds: the seventeenth and the eighteenth failure in a row are both followed by that
wait, and the longest one is never reached. -/
theorem doubling_stops_short :
    let blog : Key := ⟨"marketing", "blog"⟩
    let config : Config := { backoffInitial := .ofSeconds 1, backoffMax := .ofSeconds 100000 }
    config.check = .ok () ∧ ¬config.DoublesToMax ∧ ¬config.ReachesMax ∧
      config.waitAfter (List.replicate 16 (.fail blog)) blog = .ofSeconds 65536 ∧
      config.waitAfter (List.replicate 17 (.fail blog)) blog = .ofSeconds 65536 := by
  intro blog config
  have hinitial : config.backoffInitial.nanoseconds = 1000000000 := rfl
  have hmax : config.backoffMax.nanoseconds = 100000000000000 := rfl
  have hlast : (Duration.ofSeconds 65536).nanoseconds = 65536000000000 := rfl
  have hbeyond : ¬config.backoffMax.nanoseconds ≤ 65536 * config.backoffInitial.nanoseconds := by
    omega
  have hpositive : 0 < config.backoffInitial.nanoseconds := by omega
  have hstays : ∀ times, 16 ≤ times →
      config.waitAfter (List.replicate times (.fail blog)) blog = .ofSeconds 65536 := by
    intro times hmany
    have hcount := Operation.failedSince_replicate blog times
    refine Duration.ext ?_
    rw [Config.nanoseconds_waitAfter_sixteen config (by omega), hinitial, hmax, hlast]
    omega
  refine ⟨rfl, ?_, ?_, hstays 16 (by decide), hstays 17 (by decide)⟩
  · intro hdoubles
    exact hbeyond (hdoubles.le hpositive)
  · intro hreaches
    exact hbeyond hreaches.le

end BlogOperator
