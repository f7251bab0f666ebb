import BlogOperator.Config.Basic
import BlogOperator.Json.Record

/-!
# Written configurations

How durations and configurations are written and read. A duration is a record of seconds and
nanoseconds and has no other members; nanoseconds of a second or more carry into the seconds.
-/

set_option autoImplicit false

namespace BlogOperator

open BlogOperator.Json BlogOperator.Time

/-- The members of a written duration. -/
def Time.Duration.record : Record (UInt64 × UInt32 × Unit) :=
  .cons (.required "secs" .uint64) <|
  .cons (.required "nanos" .uint32) .done

/-- The duration that written seconds and nanoseconds make. -/
def Time.Duration.ofWritten : UInt64 × UInt32 × Unit → Except Fault Duration
  | (seconds, nanos, ()) =>
    (Duration.ofParts? seconds nanos).elim (.error .durationOverflow) .ok

/-- A duration and its members. -/
def Time.Duration.codec : Codec Duration :=
  { record.built ⟨"struct Duration", "struct Duration", true⟩ ofWritten with
    write := fun duration ↦ record.write
      (UInt64.ofNat duration.seconds, UInt32.ofNat duration.nanos, ()) }

/-- The members of a written configuration. -/
def Config.record :
    Record (String × Duration × Duration × Duration × Option String × Unit) :=
  .cons (.required "controller_name" .string) <|
  .cons (.required "resync_interval" Duration.codec) <|
  .cons (.required "backoff_initial" Duration.codec) <|
  .cons (.required "backoff_max" Duration.codec) <|
  .cons (.nullable "watch_namespace" .string) .done

/-- A configuration and its members. -/
def Config.codec : Codec Config :=
  .ofRecord record (.lenient "OperatorConfig" 5)
    (fun (name, resync, initial, max, watched, ()) ↦ ⟨name, resync, initial, max, watched⟩)
    (fun ⟨name, resync, initial, max, watched⟩ ↦ (name, resync, initial, max, watched, ()))

end BlogOperator
