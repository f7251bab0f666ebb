import BlogOperator.Cluster.Shelf
import BlogOperator.Time.Duration

/-!
# Waiting after failures

A `Backoff` counts the failures in a row under each key. The wait after a failure is the first wait
doubled once for every failure before it, sixteen times at most, and never longer than the longest.
A success forgets the failures of its key.
-/

set_option autoImplicit false

namespace BlogOperator

open BlogOperator.Time

/-- The failures in a row under each key, and the bounds of the wait after them. -/
structure Backoff where
  initial : Duration
  max : Duration
  counts : Shelf UInt32 := .empty

namespace Backoff

/-- How often the first wait is doubled at most. -/
def doublings : Nat := 16

/-- The failures in a row under a key. -/
def failures (backoff : Backoff) (key : Key) : UInt32 :=
  (backoff.counts.find? key).getD 0

/-- The wait after a failure with so many others before it. -/
def delay (backoff : Backoff) (before : UInt32) : Duration :=
  match backoff.initial.scaled? (Nat.pow 2 (min before.toNat doublings)) with
  | some wait => wait.shorter backoff.max
  | none => backoff.max

/-- One more, unless there is no larger count. -/
def increased (count : UInt32) : UInt32 :=
  if count = 0xffffffff then count else count + 1

/-- Counts a failure under a key, and says how long to wait after it. -/
def nextDelay (backoff : Backoff) (key : Key) : Duration × Backoff :=
  let before := backoff.failures key
  (backoff.delay before, { backoff with counts := backoff.counts.insert key (increased before) })

/-- Forgets the failures under a key. -/
def reset (backoff : Backoff) (key : Key) : Backoff :=
  { backoff with counts := backoff.counts.erase key }

end Backoff

end BlogOperator
