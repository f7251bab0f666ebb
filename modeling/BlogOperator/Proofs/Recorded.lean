import BlogOperator.Reconcile.Round

/-!
# Conditions that are on record

A condition is on record when the list has one of its type that agrees with it in everything but the
time. That is exactly when putting it into the list changes nothing but a time
(`Condition.sameIgnoringTime_upsert_iff`). When it was put there, which an instant stamps on it,
does not matter (`Setback.sameContent_condition`, `sameContent_readyCondition`).

Two lists agree in everything but the times exactly when they are equal after `Condition.timeless`
has taken the times away (`Condition.sameIgnoringTime_iff`). `Condition.PutInto` says where a
condition goes when it is put into a list.
-/

set_option autoImplicit false

namespace BlogOperator

open BlogOperator.Time

namespace Condition

theorem sameContent_iff {first second : Condition} :
    first.sameContent second = true ↔
      first.type = second.type ∧ first.status = second.status ∧ first.reason = second.reason ∧
        first.message = second.message := by
  simp [sameContent, and_assoc]

@[simp] theorem sameContent_self (condition : Condition) :
    condition.sameContent condition = true :=
  sameContent_iff.2 ⟨rfl, rfl, rfl, rfl⟩

theorem sameContent_trans {first second third : Condition}
    (hfirst : first.sameContent second = true) (hsecond : second.sameContent third = true) :
    first.sameContent third = true := by
  rw [sameContent_iff] at *
  obtain ⟨htype, hstatus, hreason, hmessage⟩ := hfirst
  obtain ⟨htype', hstatus', hreason', hmessage'⟩ := hsecond
  exact ⟨htype.trans htype', hstatus.trans hstatus', hreason.trans hreason',
    hmessage.trans hmessage'⟩

@[simp] theorem sameIgnoringTime_self (conditions : List Condition) :
    sameIgnoringTime conditions conditions = true := by
  induction conditions with
  | nil => rfl
  | cons condition rest ih => simp [sameIgnoringTime, ih]

/-- The instant that is stamped on a condition is not a part of its content. -/
theorem sameContent_stamped (type : String) (status : Verdict) (reason message : String)
    (now later : Instant) :
    (stamped type status reason message now).sameContent
      (stamped type status reason message later) = true :=
  sameContent_iff.2 ⟨rfl, rfl, rfl, rfl⟩

/-- Putting a condition into a list changes nothing but a time exactly where the condition is on
record. -/
theorem sameIgnoringTime_upsert_iff (new : Condition) (conditions : List Condition) :
    sameIgnoringTime conditions (upsert new conditions) = true ↔
      ∃ old, find? conditions new.type = some old ∧ old.sameContent new = true := by
  induction conditions with
  | nil => simp [sameIgnoringTime, find?]
  | cons condition rest ih =>
    by_cases htype : condition.type = new.type
    · have hfound : find? (condition :: rest) new.type = some condition := by
        simp [find?, htype]
      rw [upsert_cons, if_pos htype, hfound]
      simp [sameIgnoringTime]
    · have hfound : find? (condition :: rest) new.type = find? rest new.type := by
        simp [find?, htype]
      rw [upsert_cons, if_neg htype, hfound, ← ih]
      simp [sameIgnoringTime]

/-- Whether a condition is on record does not depend on its time. -/
theorem sameIgnoringTime_upsert_congr {first second : Condition}
    (hsame : first.sameContent second = true) (hsame' : second.sameContent first = true)
    (conditions : List Condition) :
    sameIgnoringTime conditions (upsert first conditions) =
      sameIgnoringTime conditions (upsert second conditions) := by
  have htype := (sameContent_iff.1 hsame).1
  rw [Bool.eq_iff_iff, sameIgnoringTime_upsert_iff, sameIgnoringTime_upsert_iff, htype]
  constructor
  · rintro ⟨old, hfound, hold⟩
    exact ⟨old, hfound, sameContent_trans hold hsame⟩
  · rintro ⟨old, hfound, hold⟩
    exact ⟨old, hfound, sameContent_trans hold hsame'⟩

/-- A condition that has just been put into a list is on record. -/
theorem sameIgnoringTime_upsert_upsert {first second : Condition}
    (hsame : first.sameContent second = true) (conditions : List Condition) :
    sameIgnoringTime (upsert first conditions) (upsert second (upsert first conditions)) =
      true := by
  rw [sameIgnoringTime_upsert_iff, ← (sameContent_iff.1 hsame).1]
  exact ⟨first, find?_upsert_self first conditions, hsame⟩

/-- A condition without its time. -/
def timeless (condition : Condition) : Condition :=
  { condition with lastTransitionTime := "" }

theorem sameContent_iff_timeless {first second : Condition} :
    first.sameContent second = true ↔ first.timeless = second.timeless := by
  simp [sameContent_iff, timeless]

/-- Two lists agree in everything but the times when they are equal without the times. -/
theorem sameIgnoringTime_iff {firsts seconds : List Condition} :
    sameIgnoringTime firsts seconds = true ↔ firsts.map timeless = seconds.map timeless := by
  induction firsts generalizing seconds with
  | nil => cases seconds <;> simp [sameIgnoringTime]
  | cons first firsts ih =>
    cases seconds with
    | nil => simp [sameIgnoringTime]
    | cons second seconds => simp [sameIgnoringTime, sameContent_iff_timeless, ih]

/-- What putting a condition into a list comes to: the first condition of its type makes room for
it, or it is added at the end where there is none. All other conditions stay where and as they
are. -/
inductive PutInto (new : Condition) : List Condition → List Condition → Prop
  | replaced {old : Condition} (before after : List Condition) (htype : old.type = new.type)
      (hfirst : ∀ condition ∈ before, condition.type ≠ new.type) :
      PutInto new (before ++ old :: after) (before ++ new :: after)
  | added (conditions : List Condition)
      (hnone : ∀ condition ∈ conditions, condition.type ≠ new.type) :
      PutInto new conditions (conditions ++ [new])

theorem putInto_upsert (new : Condition) (conditions : List Condition) :
    PutInto new conditions (upsert new conditions) := by
  induction conditions with
  | nil => exact .added [] (by simp)
  | cons condition rest ih =>
    rw [upsert_cons]
    by_cases htype : condition.type = new.type
    · rw [if_pos htype]
      exact .replaced [] rest htype (by simp)
    · rw [if_neg htype]
      generalize upsert new rest = left at ih ⊢
      cases ih with
      | replaced before after hold hfirst =>
        exact .replaced (condition :: before) after hold (List.forall_mem_cons.2 ⟨htype, hfirst⟩)
      | added conditions hnone =>
        exact .added (condition :: rest) (List.forall_mem_cons.2 ⟨htype, hnone⟩)

/-- A list that a condition is put into has no other conditions than that one and its own. -/
theorem eq_or_mem_of_mem_upsert {new condition : Condition} {conditions : List Condition}
    (hmem : condition ∈ upsert new conditions) : condition = new ∨ condition ∈ conditions := by
  have hput := putInto_upsert new conditions
  generalize upsert new conditions = revised at hput hmem
  cases hput with
  | @replaced old before after htype hfirst =>
    rcases List.mem_append.1 hmem with hbefore | hlater
    · exact .inr (List.mem_append_left _ hbefore)
    · rcases List.mem_cons.1 hlater with rfl | hafter
      · exact .inl rfl
      · exact .inr (List.mem_append_right _ (List.mem_cons_of_mem old hafter))
  | added conditions hnone =>
    rcases List.mem_append.1 hmem with hold | hlast
    · exact .inr hold
    · exact .inl (List.mem_singleton.1 hlast)

/-- The first condition of a type is the one that is found. -/
theorem find?_append_cons {before after : List Condition} {first : Condition} {type : String}
    (hbefore : ∀ condition ∈ before, condition.type ≠ type) (htype : first.type = type) :
    find? (before ++ first :: after) type = some first := by
  rw [find?, List.find?_append, List.find?_eq_none.2 (by simpa using hbefore)]
  simp [htype]

/-- Putting a condition into a list leaves the conditions of other types as they are, in order. -/
theorem filter_upsert (new : Condition) (conditions : List Condition) :
    (upsert new conditions).filter (fun condition ↦ condition.type ≠ new.type) =
      conditions.filter fun condition ↦ condition.type ≠ new.type := by
  induction conditions with
  | nil => simp
  | cons condition rest ih =>
    rw [upsert_cons]
    by_cases htype : condition.type = new.type
    · simp [htype]
    · simpa [htype] using ih

end Condition

theorem Setback.sameContent_condition (setback : Setback) (now later : Instant) :
    (setback.condition now).sameContent (setback.condition later) = true :=
  Condition.sameContent_stamped _ _ _ _ now later

theorem sameContent_readyCondition (now later : Instant) :
    (readyCondition now).sameContent (readyCondition later) = true :=
  Condition.sameContent_stamped _ _ _ _ now later

end BlogOperator
