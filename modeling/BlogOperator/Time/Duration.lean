/-!
# Spans of time

A `Duration` is a whole number of nanoseconds that fits in 64 bits of seconds. Requeue intervals
and retry delays are durations. Their arithmetic is on natural numbers: `scaled?` is the one
operation that can leave the range, and says so.
-/

set_option autoImplicit false

namespace BlogOperator.Time

/-- Nanoseconds in a second. -/
def nanosPerSecond : Nat := 1000000000

/-- The first number of nanoseconds beyond every duration. -/
def durationLimit : Nat := UInt64.size * nanosPerSecond

/-- A span of time, never negative, in whole nanoseconds. -/
structure Duration where
  nanoseconds : Nat
  bounded : nanoseconds < durationLimit
  deriving DecidableEq, Repr

namespace Duration

@[ext] theorem ext {first second : Duration} (h : first.nanoseconds = second.nanoseconds) :
    first = second := by
  cases first; cases second; cases h; rfl

/-- The duration of so many nanoseconds, if it is in range. -/
def ofNanoseconds? (nanoseconds : Nat) : Option Duration :=
  if bounded : nanoseconds < durationLimit then some ⟨nanoseconds, bounded⟩ else none

/-- So many whole seconds. -/
def ofSeconds (seconds : UInt64) : Duration where
  nanoseconds := seconds.toNat * nanosPerSecond
  bounded := by
    have h := seconds.toNat_lt
    simp only [durationLimit, nanosPerSecond, UInt64.size]
    omega

/-- Seconds and nanoseconds together; nanoseconds of a second or more carry. None if the carry
leaves the range. -/
def ofParts? (seconds : UInt64) (nanos : UInt32) : Option Duration :=
  ofNanoseconds? (seconds.toNat * nanosPerSecond + nanos.toNat)

/-- The whole seconds. -/
def seconds (duration : Duration) : Nat :=
  duration.nanoseconds / nanosPerSecond

/-- The nanoseconds beyond the whole seconds. -/
def nanos (duration : Duration) : Nat :=
  duration.nanoseconds % nanosPerSecond

theorem seconds_lt (duration : Duration) : duration.seconds < UInt64.size := by
  refine Nat.div_lt_of_lt_mul ?_
  rw [Nat.mul_comm]
  exact duration.bounded

theorem nanos_lt (duration : Duration) : duration.nanos < nanosPerSecond := by
  have hpositive : 0 < nanosPerSecond := by
    unfold nanosPerSecond
    omega
  exact Nat.mod_lt _ hpositive

/-- The whole seconds fit in their word. -/
theorem toNat_seconds (duration : Duration) :
    (UInt64.ofNat duration.seconds).toNat = duration.seconds :=
  UInt64.toNat_ofNat_of_lt' duration.seconds_lt

theorem nanos_lt_size (duration : Duration) : duration.nanos < UInt32.size :=
  Nat.lt_trans duration.nanos_lt (by decide)

/-- The nanoseconds beyond the whole seconds fit in their word. -/
theorem toNat_nanos (duration : Duration) :
    (UInt32.ofNat duration.nanos).toNat = duration.nanos :=
  UInt32.toNat_ofNat_of_lt' duration.nanos_lt_size

theorem nanoseconds_eq (duration : Duration) :
    duration.nanoseconds = duration.seconds * nanosPerSecond + duration.nanos :=
  (Nat.div_add_mod' _ _).symm

/-- No time at all. -/
def zero : Duration := ⟨0, by decide⟩

instance : Inhabited Duration := ⟨zero⟩

instance : LE Duration := ⟨fun first second ↦ first.nanoseconds ≤ second.nanoseconds⟩

instance : LT Duration := ⟨fun first second ↦ first.nanoseconds < second.nanoseconds⟩

instance (first second : Duration) : Decidable (first ≤ second) :=
  inferInstanceAs (Decidable (first.nanoseconds ≤ second.nanoseconds))

instance (first second : Duration) : Decidable (first < second) :=
  inferInstanceAs (Decidable (first.nanoseconds < second.nanoseconds))

theorem le_def {first second : Duration} :
    first ≤ second ↔ first.nanoseconds ≤ second.nanoseconds := Iff.rfl

theorem lt_def {first second : Duration} :
    first < second ↔ first.nanoseconds < second.nanoseconds := Iff.rfl

/-- The shorter of two durations. -/
def shorter (first second : Duration) : Duration :=
  if first ≤ second then first else second

@[simp] theorem nanoseconds_shorter (first second : Duration) :
    (first.shorter second).nanoseconds = min first.nanoseconds second.nanoseconds := by
  unfold shorter
  split
  · rename_i h
    exact (Nat.min_eq_left h).symm
  · rename_i h
    exact (Nat.min_eq_right (Nat.le_of_lt (Nat.lt_of_not_le h))).symm

/-- A duration repeated `times` times, if it is in range. -/
def scaled? (duration : Duration) (times : Nat) : Option Duration :=
  ofNanoseconds? (duration.nanoseconds * times)

theorem ofNanoseconds?_eq_some {nanoseconds : Nat} {duration : Duration} :
    ofNanoseconds? nanoseconds = some duration ↔ duration.nanoseconds = nanoseconds := by
  unfold ofNanoseconds?
  split
  · constructor
    · rintro ⟨⟩
      rfl
    · rintro rfl
      rfl
  · rename_i h
    constructor
    · rintro ⟨⟩
    · rintro rfl
      exact absurd duration.bounded h

theorem ofNanoseconds?_eq_none {nanoseconds : Nat} :
    ofNanoseconds? nanoseconds = none ↔ durationLimit ≤ nanoseconds := by
  unfold ofNanoseconds?
  split <;> simp_all

/-! ### The written form -/

/-- The digits of `fraction`, `places` of them, without the zeros they end with. -/
def fractionDigits (fraction places : Nat) : List Char :=
  let digits := Nat.toDigits 10 fraction
  let padded := List.replicate (places - digits.length) '0' ++ digits
  (padded.reverse.dropWhile (· == '0')).reverse

/-- A whole number with a fraction of `places` digits, the point only where digits follow it. -/
def withFraction (whole fraction places : Nat) : String :=
  let digits := fractionDigits fraction places
  if digits.isEmpty then toString whole
  else toString whole ++ "." ++ String.ofList digits

/-- A duration in the largest unit that leaves a whole part, every digit kept: `1.5s`, `100ms`,
`1.5µs`, `0ns`. -/
def text (duration : Duration) : String :=
  if 0 < duration.seconds then withFraction duration.seconds duration.nanos 9 ++ "s"
  else if 1000000 ≤ duration.nanos then
    withFraction (duration.nanos / 1000000) (duration.nanos % 1000000) 6 ++ "ms"
  else if 1000 ≤ duration.nanos then
    withFraction (duration.nanos / 1000) (duration.nanos % 1000) 3 ++ "µs"
  else toString duration.nanos ++ "ns"

end Duration

end BlogOperator.Time
