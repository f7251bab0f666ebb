import BlogOperator.Proofs.LoneTeam

/-!
# Leaving versions out

In the `unversioned` forms of metadata, blogs, children, writes, happenings and views of a team
every version is blank; it can still be seen whether there is one. What a round decides does not
depend on versions: the same is due for a child with a blank version (`Ghost.due?_unversioned`),
users are told the same, and the log says the same. What is written is the same but for the version
that it is given (`TeamView.unversioned_written`).
-/

set_option autoImplicit false

namespace BlogOperator

open BlogOperator.Kubernetes

/-! ### Objects -/

/-- Metadata with a blank for the version, if there is one. -/
def Kubernetes.Metadata.unversioned (metadata : Metadata) : Metadata :=
  { metadata with resourceVersion := metadata.resourceVersion.map fun _ ↦ "" }

/-- Metadata with a blank version, whether or not there was a version before. -/
def Kubernetes.Metadata.blank (metadata : Metadata) : Metadata :=
  { metadata with resourceVersion := some "" }

/-- A blog with a blank for the version. -/
def Ghost.unversioned (ghost : Ghost) : Ghost :=
  { ghost with metadata := ghost.metadata.unversioned }

/-- A child with a blank for the version, if it has one. -/
def ChildKind.unversioned (kind : ChildKind) (object : kind.Object) : kind.Object :=
  kind.withMetadata object (kind.metadata object).unversioned

/-- A child with a blank version, whether or not it had a version before. -/
def ChildKind.blank (kind : ChildKind) (object : kind.Object) : kind.Object :=
  kind.withMetadata object (kind.metadata object).blank

@[simp] theorem unversioned_stamp (version : UInt64) (metadata : Metadata) :
    (Memory.stamp version metadata).unversioned = metadata.blank := rfl

@[simp] theorem blank_unversioned (metadata : Metadata) :
    metadata.unversioned.blank = metadata.blank := rfl

@[simp] theorem ofMetadata_unversioned (metadata : Metadata) :
    Key.ofMetadata metadata.unversioned = Key.ofMetadata metadata := rfl

@[simp] theorem ChildKind.unversioned_stamped (kind : ChildKind) (version : UInt64)
    (object : kind.Object) :
    kind.unversioned (kind.stamped version object) = kind.blank object := by
  simp [unversioned, stamped, blank]

@[simp] theorem ChildKind.metadata_unversioned (kind : ChildKind) (object : kind.Object) :
    kind.metadata (kind.unversioned object) = (kind.metadata object).unversioned :=
  kind.metadata_withMetadata object _

@[simp] theorem ChildKind.blank_unversioned (kind : ChildKind) (object : kind.Object) :
    kind.blank (kind.unversioned object) = kind.blank object := by
  simp [unversioned, blank]

/-- A child as it is created has no version yet. -/
@[simp] theorem Ghost.unversioned_childOf (ghost : Ghost) (owner : OwnerReference)
    (kind : ChildKind) :
    kind.unversioned (ghost.childOf owner kind) = ghost.childOf owner kind := by
  unfold ChildKind.unversioned
  rw [metadata_childOf, childOf, ChildKind.withMetadata_withMetadata]
  rfl

/-- The status of a blog does not depend on the version. -/
theorem Ghost.statusOrEmpty_of_unversioned {ghost other : Ghost}
    (hsame : ghost.unversioned = other.unversioned) :
    ghost.statusOrEmpty = other.statusOrEmpty := by
  change ghost.unversioned.statusOrEmpty = other.unversioned.statusOrEmpty
  rw [hsame]

theorem Ghost.statusWith_of_unversioned {ghost other : Ghost}
    (hsame : ghost.unversioned = other.unversioned) (condition : Condition) :
    ghost.statusWith condition = other.statusWith condition := by
  unfold statusWith
  rw [statusOrEmpty_of_unversioned hsame]

/-! ### Writes and what is said of them -/

/-- A write of a child with a blank for the version. -/
def Write.unversioned : Write → Write
  | .create kind object => .create kind (kind.unversioned object)
  | .replace deployment => .replace (ChildKind.deployment.unversioned deployment)
  | .remove key => .remove key

@[simp] theorem Write.name_unversioned (write : Write) : write.unversioned.name = write.name := by
  cases write <;> rfl

@[simp] theorem Write.outcome_unversioned (write : Write) :
    write.unversioned.outcome = write.outcome := by
  cases write <;> rfl

theorem Ghost.notice_unversioned (ghost : Ghost) (write : Write) :
    ghost.unversioned.notice write.unversioned = ghost.notice write := by
  cases write with
  | create kind object => cases kind <;> rfl
  | replace deployment => rfl
  | remove key => rfl

theorem Ghost.writtenLine_unversioned (ghost : Ghost) (team : String) (write : Write) :
    ghost.unversioned.writtenLine team write.unversioned = ghost.writtenLine team write := by
  cases write with
  | create kind object => cases kind <;> rfl
  | replace deployment => rfl
  | remove key => rfl

/-- What happens, with blanks for the versions of the objects in calls and replies. -/
def Happening.unversioned : Happening → Happening
  | .called (.readGhost key) reply =>
    .called (.readGhost key) (reply.map (Option.map Ghost.unversioned))
  | .called (.writeStatus ghost status) reply =>
    .called (.writeStatus ghost.unversioned status) reply
  | .called (.find kind key) reply =>
    .called (.find kind key) (reply.map (Option.map kind.unversioned))
  | .called (.change write) reply => .called (.change write.unversioned) reply
  | .announced notice => .announced notice
  | .logged line => .logged line

/-! ### Decisions -/

/-- The same is due for a child whose version is blank. -/
theorem Ghost.due?_unversioned (ghost : Ghost) (team : String) (kind : ChildKind)
    (live : Option kind.Object) :
    ghost.unversioned.due? team kind (live.map kind.unversioned) =
      (ghost.due? team kind live).map (Option.map Write.unversioned) := by
  have hghost (live : Option kind.Object) :
      ghost.unversioned.due? team kind live = ghost.due? team kind live := by
    cases kind <;> cases live <;> rfl
  rw [hghost]
  cases live with
  | none =>
    by_cases hwanted : kind = .ingress → ghost.spec.enableIngress = true
    · rw [Option.map_none, due?_none hwanted]
      cases ghost.ownerReference? with
      | none => rfl
      | some owner => simp [Except.map, Write.unversioned]
    · obtain ⟨rfl, hunwanted⟩ : kind = .ingress ∧ ghost.spec.enableIngress = false := by
        simpa using hwanted
      rw [Option.map_none, due?_noIngress hunwanted]
      rfl
  | some live =>
    cases kind with
    | volumeClaim => rfl
    | service => rfl
    | deployment =>
      have hserves : Deployment.serves (ChildKind.deployment.unversioned live) ghost =
        Deployment.serves live ghost := rfl
      rw [Option.map_some, due?_deployment, due?_deployment, hserves]
      split <;> rfl
    | ingress =>
      rw [Option.map_some, due?_ingress, due?_ingress]
      split <;> rfl

/-- Blogs and children that are the same but for versions come to decisions that are. -/
theorem Ghost.due?_alike {ghost other : Ghost} (hghost : ghost.unversioned = other.unversioned)
    {kind : ChildKind} {live live' : Option kind.Object}
    (hlive : live.map kind.unversioned = live'.map kind.unversioned) (team : String) :
    (∃ failure, ghost.due? team kind live = .error failure ∧
        other.due? team kind live' = .error failure) ∨
      (ghost.due? team kind live = .ok none ∧ other.due? team kind live' = .ok none) ∨
      ∃ write write', ghost.due? team kind live = .ok (some write) ∧
        other.due? team kind live' = .ok (some write') ∧
        write.unversioned = write'.unversioned := by
  have hdue := ghost.due?_unversioned team kind live
  rw [hghost, hlive, other.due?_unversioned] at hdue
  generalize ghost.due? team kind live = first at hdue ⊢
  generalize other.due? team kind live' = second at hdue ⊢
  rcases first with failure | _ | write
  · rcases second with failure' | due
    · cases hdue
      exact .inl ⟨failure, rfl, rfl⟩
    · cases hdue
  · rcases second with failure' | _ | write'
    · cases hdue
    · exact .inr (.inl ⟨rfl, rfl⟩)
    · cases hdue
  · rcases second with failure' | _ | write'
    · cases hdue
    · cases hdue
    · exact .inr (.inr ⟨write, write', rfl, rfl,
        (Option.some.inj (Except.ok.inj hdue)).symm⟩)

/-! ### Views -/

namespace TeamView

/-- A view with blanks for the versions of the objects in it. -/
def unversioned (view : TeamView) : TeamView where
  faults := view.faults
  ghosts name := (view.ghosts name).map Ghost.unversioned
  children kind name := (view.children kind name).map kind.unversioned

section Same

variable {first second : TeamView} (hsame : first.unversioned = second.unversioned)

include hsame

theorem faults_of_unversioned : first.faults = second.faults := by
  have hfaults := congrArg TeamView.faults hsame
  exact hfaults

theorem ghosts_of_unversioned (name : String) :
    (first.ghosts name).map Ghost.unversioned = (second.ghosts name).map Ghost.unversioned := by
  have hghosts := congrArg TeamView.ghosts hsame
  exact congrFun hghosts name

theorem children_of_unversioned (kind : ChildKind) (name : String) :
    (first.children kind name).map kind.unversioned =
      (second.children kind name).map kind.unversioned := by
  have hchildren := congrArg TeamView.children hsame
  exact congrFun (congrFun hchildren kind) name

end Same

theorem unversioned_withGhost (view : TeamView) (name : String) (ghost : Ghost) :
    (view.withGhost name ghost).unversioned =
      view.unversioned.withGhost name ghost.unversioned := by
  ext1
  · rfl
  · funext other
    by_cases hother : other = name
    · subst hother
      simp [unversioned]
    · simp [unversioned, ghosts_withGhost_of_ne _ hother]
  · rfl

theorem unversioned_withChild (view : TeamView) (kind : ChildKind) (name : String)
    (object : Option kind.Object) :
    (view.withChild kind name object).unversioned =
      view.unversioned.withChild kind name (object.map kind.unversioned) := by
  ext1
  · rfl
  · rfl
  · funext other place
    by_cases hplace : other ≠ kind ∨ place ≠ name
    · rw [children_withChild_of_ne _ hplace]
      simp [unversioned, children_withChild_of_ne _ hplace]
    · obtain ⟨rfl, rfl⟩ : other = kind ∧ place = name := by simpa using hplace
      simp [unversioned]

/-- What is written is the same but for the version that it is given. -/
theorem unversioned_written (view : TeamView) (version : UInt64) (write : Write) :
    (view.written version write).unversioned =
      view.unversioned.withChild write.unversioned.kind write.unversioned.key.name
        (write.unversioned.object?.map write.unversioned.kind.blank) := by
  unfold written
  rw [unversioned_withChild]
  cases write with
  | create kind object =>
    change view.unversioned.withChild kind (Key.ofMetadata (kind.metadata object)).name
        (some (kind.unversioned (kind.stamped version object))) =
      view.unversioned.withChild kind
        (Key.ofMetadata (kind.metadata (kind.unversioned object))).name
        (some (kind.blank (kind.unversioned object)))
    rw [ChildKind.unversioned_stamped, ChildKind.blank_unversioned,
      ChildKind.metadata_unversioned, ofMetadata_unversioned]
  | replace deployment => rfl
  | remove key => rfl

end TeamView

end BlogOperator
