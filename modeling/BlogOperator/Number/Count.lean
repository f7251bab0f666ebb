/-!
# Counts

Whole numbers in text that are to stay below a limit: digits after an optional plus sign. A number
that has outgrown its limit is reported as too large even if something else than a digit follows.
-/

set_option autoImplicit false

namespace BlogOperator.Number

/-- Why a text is not a count. -/
inductive CountFault where
  | empty
  | invalidDigit
  | tooLarge
  deriving DecidableEq, Repr

/-- The sentence that reports a fault. -/
def CountFault.message : CountFault → String
  | .empty => "cannot parse integer from empty string"
  | .invalidDigit => "invalid digit found in string"
  | .tooLarge => "number too large to fit in target type"

/-- A number below a limit. -/
abbrev Count (limit : Nat) := { value : Nat // value < limit }

/-- Appends digits to a number. -/
def appendDigits {limit : Nat} : Count limit → List Char → Except CountFault (Count limit)
  | value, [] => .ok value
  | value, digit :: rest =>
    if digit.isDigit then
      let longer := value.val * 10 + (digit.toNat - '0'.toNat)
      if fits : longer < limit then appendDigits ⟨longer, fits⟩ rest else .error .tooLarge
    else .error .invalidDigit

/-- Digits, at least one of them, after an optional plus sign. -/
def readCount (limit : Nat) (characters : List Char) (positive : 0 < limit := by decide) :
    Except CountFault (Count limit) :=
  let zero : Count limit := ⟨0, positive⟩
  match characters with
  | [] => .error .empty
  | ['+'] => .error .invalidDigit
  | '+' :: digits => appendDigits zero digits
  | digits => appendDigits zero digits

end BlogOperator.Number
