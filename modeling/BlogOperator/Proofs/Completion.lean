import BlogOperator.Proofs.Convergence
import BlogOperator.Proofs.Unversioned

/-!
# Complete rounds

A round is complete for a blog when each step succeeds. `TeamView.Completed` says what it then makes
of the children of its team, in terms of what each step leaves (`Ghost.Leaves`). Without regard to
versions this depends on nothing but the children that were there before
(`TeamView.Completed.children_eq`). When no call is made to fail a round for a blog that has a name
is complete, in any orderly cluster (`Memory.Orderly.completed_reconcile`).
-/

set_option autoImplicit false

namespace BlogOperator

open BlogOperator.Kubernetes BlogOperator.Time

/-- What is left of a child is the same whenever the step is made, but for the version. -/
theorem Ghost.Leaves.map_unversioned_eq {ghost : Ghost} {kind : ChildKind}
    {found left left' : Option kind.Object} (hleaves : ghost.Leaves kind found left)
    (hleaves' : ghost.Leaves kind found left') :
    left.map kind.unversioned = left'.map kind.unversioned := by
  by_cases hrest : ghost.AtRest kind found
  · rw [hleaves.eq_of_atRest hrest, hleaves'.eq_of_atRest hrest]
  · cases hleaves with
    | kept hlive => exact absurd hlive hrest
    | created version howner hwanted =>
      cases hleaves' with
      | kept hlive => exact absurd hlive hrest
      | created version' howner' hwanted' =>
        rw [howner] at howner'
        cases howner'
        simp
    | replaced version hdrifted =>
      cases hleaves' with
      | kept hlive => exact absurd hlive hrest
      | replaced version' hdrifted' => simp
    | removed hunwanted =>
      cases hleaves' with
      | kept hlive => exact absurd hlive hrest
      | removed hunwanted' => rfl

/-- What a complete round for a blog makes of the children of its team. -/
structure TeamView.Completed (key : Key) (ghost : Ghost) (before after : TeamView) : Prop where
  /-- Each child is as it is to be left. -/
  child : ∀ kind : ChildKind,
    ghost.Leaves kind (before.children kind (kind.childName key.namespaceName))
      (after.children kind (kind.childName key.namespaceName))
  /-- What has other names is as it was. -/
  elsewhere : ∀ (kind : ChildKind) (name : String), name ≠ kind.childName key.namespaceName →
    after.children kind name = before.children kind name

/-- Complete rounds make the same of the same children, versions apart. -/
theorem TeamView.Completed.children_eq {key : Key} {ghost : Ghost} {before after after' : TeamView}
    (hcompleted : before.Completed key ghost after)
    (hcompleted' : before.Completed key ghost after') :
    after.unversioned.children = after'.unversioned.children := by
  funext kind name
  by_cases hname : name = kind.childName key.namespaceName
  · subst hname
    exact (hcompleted.child kind).map_unversioned_eq (hcompleted'.child kind)
  · change (after.children kind name).map _ = (after'.children kind name).map _
    rw [hcompleted.elsewhere kind name hname, hcompleted'.elsewhere kind name hname]

/-- A cluster in which no call is made to fail any more. -/
def Memory.healed (memory : Memory) : Memory :=
  { memory with faults := fun _ ↦ none }

/-- A reference can name a blog that has a name and an identity. -/
theorem Ghost.exists_ownerReference (ghost : Ghost) {name uid : String}
    (hname : ghost.metadata.name = some name) (huid : ghost.metadata.uid = some uid) :
    ∃ owner, ghost.ownerReference? = some owner :=
  ⟨_, ownerReference?_eq_some_iff.2 ⟨name, uid, hname, huid, rfl⟩⟩

/-- When no call is made to fail a round for a blog that has a name is complete. -/
theorem Memory.Orderly.completed_reconcile {memory : Memory} (horderly : memory.Orderly) {key : Key}
    {ghost : Ghost} (hghost : memory.ghosts.find? key = some ghost) {name : String}
    (hname : ghost.metadata.name = some name) (now : Instant) :
    let run := (reconcile key now).run Memory.environment memory.healed
    run.result = .ok () ∧ (memory.view key.namespaceName).Completed key ghost
      (run.state.view key.namespaceName) := by
  intro run
  obtain ⟨uid, huid⟩ := Option.ne_none_iff_exists'.1 (horderly.ghosts_identified hghost)
  obtain ⟨owner, howner⟩ := ghost.exists_ownerReference hname huid
  have hhealed : memory.healed.Orderly := horderly.of_stores rfl rfl
  obtain ⟨hresult, -, hchild, helsewhere⟩ :=
    hhealed.reconcile_of_no_faults (fun _ ↦ rfl) hghost howner now
  exact ⟨hresult, hchild, helsewhere⟩

end BlogOperator
