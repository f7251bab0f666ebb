import BlogOperator.Time.Calendar
import BlogOperator.Time.Duration

/-!
# Instants

An `Instant` counts seconds from the start of 1970 in universal time, with nanoseconds. A leap
second is the second after the last one of a minute, written `60`: its nanoseconds run from one
thousand million up. `Instant.text` writes an instant with a numeric offset and as few fraction
digits as are exact, in groups of three; `Instant.secondText` and `Instant.microText` write it with
`Z` and a fixed number of digits.
-/

set_option autoImplicit false

namespace BlogOperator.Time

/-- The first second of the calendar, at the start of the year -262143. -/
def firstSecond : Int := -8334601228800

/-- The last second of the calendar, at the end of the year 262142. -/
def lastSecond : Int := 8210266876799

/-- Whether seconds and nanoseconds name an instant: inside the calendar, and more than a second
of nanoseconds only in a minute's last second. -/
def isInstant (seconds : Int) (nanos : Nat) : Bool :=
  firstSecond ≤ seconds && seconds ≤ lastSecond &&
    (nanos < nanosPerSecond || (nanos < 2 * nanosPerSecond && seconds % 60 == 59))

/-- A moment in universal time. -/
structure Instant where
  seconds : Int
  nanos : Nat
  valid : isInstant seconds nanos = true
  deriving DecidableEq, Repr

namespace Instant

/-- The instant of these seconds and nanoseconds, if there is one. -/
def mk? (seconds : Int) (nanos : Nat) : Option Instant :=
  if valid : isInstant seconds nanos = true then some ⟨seconds, nanos, valid⟩ else none

/-- The start of 1970. -/
def epoch : Instant := ⟨0, 0, by decide⟩

instance : Inhabited Instant := ⟨epoch⟩

/-- The nanoseconds from the start of 1970, a leap second counted as the second after it. -/
def nanosFromEpoch (instant : Instant) : Int :=
  instant.seconds * nanosPerSecond + instant.nanos

/-! ### Written forms -/

/-- At least `width` digits, filled with zeros from the left. -/
def padded (width number : Nat) : String :=
  let digits := Nat.toDigits 10 number
  String.ofList (List.replicate (width - digits.length) '0' ++ digits)

/-- Four digits for the years from zero to 9999, a sign and at least four digits for all others. -/
def yearText (year : Int) : String :=
  if 0 ≤ year && year ≤ 9999 then padded 4 year.toNat
  else (if year < 0 then "-" else "+") ++ padded 4 year.natAbs

/-- Date and time of day to the second; a leap second is second sixty. -/
def civilText (instant : Instant) : String :=
  let date := Date.ofDays (instant.seconds / 86400)
  let secondOfDay := (instant.seconds % 86400).toNat
  let leap := if nanosPerSecond ≤ instant.nanos then 1 else 0
  yearText date.year ++ "-" ++ padded 2 date.month ++ "-" ++ padded 2 date.day ++ "T" ++
    padded 2 (secondOfDay / 3600) ++ ":" ++ padded 2 (secondOfDay / 60 % 60) ++ ":" ++
    padded 2 (secondOfDay % 60 + leap)

/-- The nanoseconds within the second. -/
def fraction (instant : Instant) : Nat :=
  instant.nanos % nanosPerSecond

/-- The fraction in as few groups of three digits as are exact, nothing for a whole second. -/
def fractionText (instant : Instant) : String :=
  if instant.fraction = 0 then ""
  else if instant.fraction % 1000000 = 0 then "." ++ padded 3 (instant.fraction / 1000000)
  else if instant.fraction % 1000 = 0 then "." ++ padded 6 (instant.fraction / 1000)
  else "." ++ padded 9 instant.fraction

/-- The form in which conditions are stamped. -/
def text (instant : Instant) : String :=
  instant.civilText ++ instant.fractionText ++ "+00:00"

/-- The form of a time in an object's metadata: to the second. -/
def secondText (instant : Instant) : String :=
  instant.civilText ++ "Z"

/-- The form of a time in an event: to the microsecond. -/
def microText (instant : Instant) : String :=
  instant.civilText ++ "." ++ padded 6 (instant.fraction / 1000) ++ "Z"

end Instant

end BlogOperator.Time
