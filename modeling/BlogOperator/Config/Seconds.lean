import BlogOperator.Number.Count
import BlogOperator.Text.Blank
import BlogOperator.Time.Duration

/-!
# Counts of seconds

Durations are configured as whole numbers of seconds. `readSeconds` takes blanks around the number
and any number of digits whose value fits in 64 bits.
-/

set_option autoImplicit false

namespace BlogOperator.Config

open BlogOperator.Number BlogOperator.Text BlogOperator.Time

/-- A duration written as a count of seconds. -/
def readSeconds (text : String) : Except CountFault Duration := do
  let count ← readCount UInt64.size (trim text.toList)
  return .ofSeconds (UInt64.ofNatLT count.val count.property)

end BlogOperator.Config
