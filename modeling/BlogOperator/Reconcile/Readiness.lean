import BlogOperator.Reconcile.Notice

/-!
# Readiness

A `Readiness` records what has become of each child that has been put in place during a pass. All
is ready when every kind is on record.
-/

set_option autoImplicit false

namespace BlogOperator

/-- What has become of the children of a blog so far, in order. -/
structure Readiness where
  outcomes : List (ChildKind × Outcome) := []
  deriving DecidableEq, Repr, Inhabited

namespace Readiness

/-- Puts on record what has become of a child. -/
def record (readiness : Readiness) (kind : ChildKind) (outcome : Outcome) : Readiness :=
  ⟨readiness.outcomes ++ [(kind, outcome)]⟩

/-- Whether the child of a kind is in place. -/
def isReady (readiness : Readiness) (kind : ChildKind) : Bool :=
  readiness.outcomes.any fun entry ↦ entry.1 == kind

/-- Whether all children are in place. -/
def allReady (readiness : Readiness) : Bool :=
  ChildKind.all.all readiness.isReady

/-- The number of children that have been written. -/
def writes (readiness : Readiness) : Nat :=
  readiness.outcomes.countP fun entry ↦ entry.2 != .unchanged

end Readiness

end BlogOperator
