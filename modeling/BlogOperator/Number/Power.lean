/-!
# Powers by squaring

`power` combines a value with itself so many times, by halving the number of times at each step.
With it `inverse` is the inverse of a number modulo a prime.
-/

set_option autoImplicit false

namespace BlogOperator.Number

/-- A value combined with itself `count` times, beginning with the neutral one. -/
def power {α : Type} (combine : α → α → α) (neutral : α) (count : Nat) (base : α) : α :=
  if count = 0 then neutral
  else
    let rest := power combine neutral (count / 2) (combine base base)
    if count % 2 = 1 then combine base rest else rest
termination_by count

/-- The inverse of a number modulo a prime, by the little theorem of Fermat. -/
def inverse (prime : Nat) (number : Int) : Int :=
  power (fun first second ↦ first * second % prime) 1 (prime - 2) (number % prime)

end BlogOperator.Number
