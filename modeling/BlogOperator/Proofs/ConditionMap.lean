import BlogOperator.Ghost.Condition
import Mathlib.Data.List.Nodup

/-!
# Conditions as an ordered map

A list of conditions is a map from types to conditions that keeps the order in which the types came
up. What one finding does to it is said by places (`getElem?_upsert`): it stands at the place of the
first condition of its type, or behind all where there is none, and every other place is as it was.
So the types stay in order (`map_type_upsert`), and under every other type the same condition is
found (`find?_upsert`).

Over many findings in turn these become `map_type_upsertAll` and `find?_upsertAll`: new types follow
the old ones in the order in which they first came up, and the last finding of a type is the one
that is found. When the types were distinct in the beginning they stay so, and the list is known by
its types and by what is found under each of them (`conditions_ordered`).
-/

set_option autoImplicit false

namespace BlogOperator

open BlogOperator.Time

namespace Condition

/-- What is found of one aspect of a blog at an instant. -/
structure Finding where
  type : String
  status : Verdict
  reason : String
  message : String
  now : Instant

/-- The condition by which a finding is written down. -/
def Finding.condition (finding : Finding) : Condition :=
  .stamped finding.type finding.status finding.reason finding.message finding.now

@[simp] theorem Finding.type_condition (finding : Finding) :
    finding.condition.type = finding.type := rfl

/-- A list of conditions with findings put into it in turn. -/
def upsertAll (findings : List Finding) (conditions : List Condition) : List Condition :=
  findings.foldl (fun current finding ↦ upsert finding.condition current) conditions

/-- The last finding of a type. -/
def lastOf? (findings : List Finding) (type : String) : Option Finding :=
  findings.reverse.find? fun finding ↦ finding.type = type

/-! ### One finding -/

/-- A condition that is put into a list stands at the place of the first one of its type, or behind
all where there is none, and nothing changes at other places. -/
theorem getElem?_upsert (new : Condition) (conditions : List Condition) (index : Nat) :
    (upsert new conditions)[index]? =
      if index = conditions.findIdx (fun condition ↦ condition.type = new.type) then some new
      else conditions[index]? := by
  induction conditions generalizing index with
  | nil => cases index <;> simp
  | cons condition rest ih =>
    rw [upsert_cons]
    by_cases htype : condition.type = new.type
    · cases index <;> simp [htype, List.findIdx_cons]
    · cases index with
      | zero => simp [htype, List.findIdx_cons]
      | succ index => simp [htype, List.findIdx_cons, ih]

/-- Putting a condition into a list changes what is found under its type only. -/
theorem find?_upsert (new : Condition) (conditions : List Condition) (type : String) :
    find? (upsert new conditions) type =
      if type = new.type then some new else find? conditions type := by
  by_cases htype : type = new.type
  · rw [if_pos htype, htype, find?_upsert_self]
  · rw [if_neg htype, find?_upsert_of_ne htype]

/-- The types stay in order, and a new one is added at the end. -/
theorem map_type_upsert (new : Condition) (conditions : List Condition) :
    (upsert new conditions).map type =
      if new.type ∈ conditions.map type then conditions.map type
      else conditions.map type ++ [new.type] := by
  induction conditions with
  | nil => simp
  | cons condition rest ih =>
    rw [upsert_cons]
    by_cases htype : condition.type = new.type
    · simp [htype]
    · rw [if_neg htype, List.map_cons, ih]
      by_cases hmem : new.type ∈ rest.map type
      · simp [hmem]
      · simp [hmem, Ne.symm htype]

theorem nodup_upsert {conditions : List Condition} (hdistinct : (conditions.map type).Nodup)
    (new : Condition) : ((upsert new conditions).map type).Nodup := by
  rw [map_type_upsert]
  by_cases hmem : new.type ∈ conditions.map type
  · rwa [if_pos hmem]
  · rw [if_neg hmem, List.nodup_append]
    refine ⟨hdistinct, List.nodup_singleton _, fun old hold last hlast hsame ↦ hmem ?_⟩
    rw [← List.mem_singleton.1 hlast, ← hsame]
    exact hold

/-! ### Findings in turn -/

theorem upsertAll_cons (finding : Finding) (rest : List Finding) (conditions : List Condition) :
    upsertAll (finding :: rest) conditions =
      upsertAll rest (upsert finding.condition conditions) := rfl

theorem lastOf?_cons (finding : Finding) (rest : List Finding) (type : String) :
    lastOf? (finding :: rest) type =
      (lastOf? rest type).or (if finding.type = type then some finding else none) := by
  simp only [lastOf?, List.reverse_cons, List.find?_append, List.find?_singleton, decide_eq_true_eq]

theorem lastOf?_eq_none_iff {findings : List Finding} {type : String} :
    lastOf? findings type = none ↔ type ∉ findings.map Finding.type := by
  simp [lastOf?]

/-- After findings in turn the last one of a type is found, and without one what was found
before. -/
theorem find?_upsertAll (findings : List Finding) (conditions : List Condition) (type : String) :
    find? (upsertAll findings conditions) type =
      ((lastOf? findings type).map Finding.condition).or (find? conditions type) := by
  induction findings generalizing conditions with
  | nil => rfl
  | cons finding rest ih =>
    rw [upsertAll_cons, ih, find?_upsert, lastOf?_cons]
    cases lastOf? rest type with
    | some last => rfl
    | none =>
      by_cases htype : finding.type = type
      · simp [htype]
      · simp [htype, Ne.symm htype]

/-- The types that are not among those known before, in the order in which they first come up. -/
def newTypes (known types : List String) : List String :=
  (types.filter (· ∉ known)).eraseDups

theorem newTypes_cons_of_mem {known : List String} {type : String} (hknown : type ∈ known)
    (rest : List String) : newTypes known (type :: rest) = newTypes known rest := by
  simp [newTypes, hknown]

theorem newTypes_cons_of_notMem {known : List String} {type : String} (hnew : type ∉ known)
    (rest : List String) :
    newTypes known (type :: rest) = type :: newTypes (known ++ [type]) rest := by
  have hothers : rest.filter (· ∉ known ++ [type]) =
      (rest.filter (· ∉ known)).filter fun other ↦ !other == type := by
    rw [List.filter_filter]
    refine List.filter_congr fun other _ ↦ ?_
    by_cases hsame : other = type
    · simp [hsame]
    · simp [hsame]
  rw [newTypes, newTypes, hothers, List.filter_cons, if_pos (decide_eq_true hnew),
    List.eraseDups_cons]

/-- After findings in turn the old types come first, in their order, and then the new ones in the
order in which they first came up. -/
theorem map_type_upsertAll (findings : List Finding) (conditions : List Condition) :
    (upsertAll findings conditions).map type =
      conditions.map type ++ newTypes (conditions.map type) (findings.map Finding.type) := by
  induction findings generalizing conditions with
  | nil => simp [upsertAll, newTypes]
  | cons finding rest ih =>
    have htypes : (upsert finding.condition conditions).map type =
        if finding.type ∈ conditions.map type then conditions.map type
        else conditions.map type ++ [finding.type] :=
      map_type_upsert finding.condition conditions
    rw [upsertAll_cons, ih, List.map_cons, htypes]
    by_cases hmem : finding.type ∈ conditions.map type
    · rw [if_pos hmem, newTypes_cons_of_mem hmem]
    · rw [if_neg hmem, newTypes_cons_of_notMem hmem, List.append_assoc, List.singleton_append]

theorem nodup_upsertAll {conditions : List Condition} (hdistinct : (conditions.map type).Nodup)
    (findings : List Finding) : ((upsertAll findings conditions).map type).Nodup := by
  induction findings generalizing conditions with
  | nil => exact hdistinct
  | cons finding rest ih => exact ih (nodup_upsert hdistinct finding.condition)

/-- In a list with distinct types every condition is the one found under its type. -/
theorem find?_of_mem {conditions : List Condition} (hdistinct : (conditions.map type).Nodup)
    {condition : Condition} (hmem : condition ∈ conditions) :
    find? conditions condition.type = some condition := by
  unfold find?
  cases hfound : conditions.find? fun other ↦ other.type = condition.type with
  | none => exact absurd (List.find?_eq_none.1 hfound condition hmem) (by simp)
  | some found =>
    have htype : found.type = condition.type := by simpa using List.find?_some hfound
    rw [List.inj_on_of_nodup_map hdistinct (List.mem_of_find?_eq_some hfound) hmem htype]

/-- Assumes: a list of conditions with distinct types. After findings in turn the types are distinct.
The old ones come first, in their order, and then the new ones in the order in which they first came
up. Under each type the list has the last finding of it, and the old condition as it was where there
is no finding, and that is what is found under it; nothing is found under a type that never came up.

In any list, with duplicates or not, one finding stands at the place of the first condition of its
type, or behind all if there is none. Nothing changes at other places, nor in what is found under
other types. -/
theorem conditions_ordered {initial : List Condition}
    (hdistinct : (initial.map type).Nodup) (findings : List Finding) :
    let final := upsertAll findings initial
    let expected (type : String) : Option Condition :=
      ((lastOf? findings type).map Finding.condition).or (find? initial type)
    (final.map type).Nodup ∧
      final.map type =
        initial.map type ++ newTypes (initial.map type) (findings.map Finding.type) ∧
      (∀ condition ∈ final, expected condition.type = some condition) ∧
      (∀ type, find? final type = expected type ∧
        (expected type = none ↔
          type ∉ initial.map Condition.type ∧ type ∉ findings.map Finding.type)) ∧
      ∀ (conditions : List Condition) (finding : Finding),
        let place := conditions.findIdx fun condition ↦ condition.type = finding.type
        let after := upsert finding.condition conditions
        (∀ index, after[index]? =
          if index = place then some finding.condition else conditions[index]?) ∧
        ∀ type, find? after type =
          if type = finding.type then some finding.condition else find? conditions type := by
  intro final expected
  have hnodup : (final.map type).Nodup := nodup_upsertAll hdistinct findings
  have hfound (type : String) : find? final type = expected type :=
    find?_upsertAll findings initial type
  refine ⟨hnodup, map_type_upsertAll findings initial, fun condition hmem ↦ ?_,
    fun type ↦ ⟨hfound type, ?_⟩, fun conditions finding ↦
      ⟨getElem?_upsert finding.condition conditions, find?_upsert finding.condition conditions⟩⟩
  · rw [← hfound, find?_of_mem hnodup hmem]
  · rw [Option.or_eq_none_iff, Option.map_eq_none_iff, lastOf?_eq_none_iff, and_comm]
    simp [find?]

/-- A blog is ready, and its volume has once failed. Then the service fails, the blog is ready again
and the service fails for another reason. The service comes third and has the last reason, and what
is said of the volume stays as it was. -/
theorem conditions_ordered_marketing :
    let volume : Condition := {
      type := "PVCNotReady", status := .fails, reason := "PVCNotReady", message := "quota"
      lastTransitionTime := "yesterday" }
    let initial : List Condition := [
      { type := "GhostReady", status := .holds, reason := "AllSubresourcesReady", message := ""
        lastTransitionTime := "today" },
      volume]
    let service (message : String) : Finding := {
      type := "ServiceNotReady", status := .fails, reason := "ServiceNotReady", message
      now := .epoch }
    let ready : Finding := {
      type := "GhostReady", status := .holds, reason := "AllSubresourcesReady", message := ""
      now := .epoch }
    let findings := [service "no port is free", ready, service "forbidden"]
    let final := upsertAll findings initial
    (initial.map type).Nodup ∧
      final.map type = ["GhostReady", "PVCNotReady", "ServiceNotReady"] ∧
      find? final "PVCNotReady" = some volume ∧
      find? final "ServiceNotReady" = some (service "forbidden").condition ∧
      find? final "IngressNotReady" = none := by
  intro volume initial service ready findings final
  have hdistinct : (initial.map type).Nodup := by decide
  obtain ⟨-, htypes, -, hfound, -⟩ := conditions_ordered hdistinct findings
  have hnever := (hfound "IngressNotReady").2.2 (by decide)
  exact ⟨hdistinct, htypes, (hfound "PVCNotReady").1, (hfound "ServiceNotReady").1,
    (hfound "IngressNotReady").1.trans hnever⟩

end Condition

end BlogOperator
