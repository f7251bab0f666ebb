import BlogOperator.Time.Instant

/-!
# Conditions

A `Condition` says whether one aspect of a blog is in order, why, and since when that was last
written. A list of conditions is a map from types to conditions that keeps the order in which the
types first came up: `upsert` rewrites the condition of a type in place or adds it at the end,
`find?` looks one up, and `sameIgnoringTime` tells whether two lists differ in more than times.
-/

set_option autoImplicit false

namespace BlogOperator

/-- Whether a condition holds. -/
inductive Verdict where
  | holds
  | fails
  | undetermined
  deriving DecidableEq, Repr

/-- Nothing is known of a condition before it has been looked into. -/
instance : Inhabited Verdict := ⟨.undetermined⟩

/-- One aspect of a blog's readiness. -/
structure Condition where
  type : String
  status : Verdict
  /-- The reason in one word, for programs. -/
  reason : String
  /-- The reason in a sentence, for people. -/
  message : String
  /-- When the condition was last written. -/
  lastTransitionTime : String
  deriving DecidableEq, Repr, Inhabited

namespace Condition

/-- The type of the condition that holds when all children are in place. -/
def ghostReady : String := "GhostReady"

/-- The reason that goes with `ghostReady`. -/
def allSubresourcesReady : String := "AllSubresourcesReady"

/-- A condition as it is written at an instant. -/
def stamped (type : String) (status : Verdict) (reason message : String) (now : Time.Instant) :
    Condition :=
  ⟨type, status, reason, message, now.text⟩

/-- The first condition of a type. -/
def find? (conditions : List Condition) (type : String) : Option Condition :=
  conditions.find? fun condition ↦ condition.type = type

/-- Puts a condition in the place of the first one of its type, or at the end if there is none. -/
def upsert (new : Condition) : List Condition → List Condition
  | [] => [new]
  | condition :: rest =>
    if condition.type = new.type then new :: rest else condition :: upsert new rest

/-- Whether two conditions agree in everything but their times. -/
def sameContent (first second : Condition) : Bool :=
  first.type == second.type && first.status == second.status && first.reason == second.reason &&
    first.message == second.message

/-- Whether two lists agree in everything but the times. -/
def sameIgnoringTime : List Condition → List Condition → Bool
  | [], [] => true
  | first :: firsts, second :: seconds =>
    first.sameContent second && sameIgnoringTime firsts seconds
  | _, _ => false

@[simp] theorem upsert_nil (new : Condition) : upsert new [] = [new] := rfl

theorem upsert_cons (new condition : Condition) (rest : List Condition) :
    upsert new (condition :: rest) =
      if condition.type = new.type then new :: rest else condition :: upsert new rest := rfl

/-- The condition just put into a list is the one found under its type. -/
@[simp] theorem find?_upsert_self (new : Condition) (conditions : List Condition) :
    find? (upsert new conditions) new.type = some new := by
  induction conditions with
  | nil => simp [find?]
  | cons condition rest ih =>
    rw [upsert_cons]
    split
    · simp [find?]
    · rename_i h
      simpa [find?, List.find?_cons, h] using ih

/-- Putting a condition into a list leaves the conditions of other types where they were. -/
theorem find?_upsert_of_ne {new : Condition} {type : String} (h : type ≠ new.type)
    (conditions : List Condition) : find? (upsert new conditions) type = find? conditions type := by
  induction conditions with
  | nil => simp [find?, Ne.symm h]
  | cons condition rest ih =>
    rw [upsert_cons]
    split
    · rename_i same
      simp [find?, same, Ne.symm h]
    · simp only [find?, List.find?_cons] at ih ⊢
      split <;> simp_all

end Condition

end BlogOperator
