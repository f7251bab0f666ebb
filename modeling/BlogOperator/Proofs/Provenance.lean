import BlogOperator.Proofs.Completion

/-!
# Where children come from

Over time several blogs may be stored under a key with one identity: each `Ghost.Bears` the key and
the identity. Where only the rounds of such blogs write the children of a team, every child is
`ChildKind.Made`: it is a child as one of these blogs has it created, whichever of them that was.
The writes that a blog wants keep it so (`Ghost.Wants.made`). A deployment is rewritten with parts
of two blogs, and is then as a third one would have had it created.

Only the image tag and the number of pods of a deployment tell the blogs apart. A step sees to both,
so that what it leaves of a child that was made is what the blog has `Ghost.ordered`, and shows
nothing of what was there before (`Ghost.Leaves.eq_ordered`).
-/

set_option autoImplicit false

namespace BlogOperator

open BlogOperator.Kubernetes

/-! ### Blogs with one identity -/

/-- A blog with a key and an identity. -/
structure Ghost.Bears (key : Key) (uid : String) (ghost : Ghost) : Prop where
  key_eq : Key.ofMetadata ghost.metadata = key
  uid_eq : ghost.metadata.uid = some uid

namespace Ghost.Bears

variable {key : Key} {uid : String} {ghost other : Ghost} {owner owner' : OwnerReference}

theorem team_eq (hbears : ghost.Bears key uid) : ghost.team = key.namespaceName :=
  congrArg Key.namespaceName hbears.key_eq

/-- A blog that a reference can name goes by the name of its key. -/
theorem name_eq (hbears : ghost.Bears key uid) (howner : ghost.ownerReference? = some owner) :
    ghost.metadata.name = some key.name := by
  obtain ⟨name, uid, hname, -, -⟩ := ownerReference?_eq_some_iff.1 howner
  have hkey : ghost.metadata.name.getD "" = key.name := congrArg Key.name hbears.key_eq
  rw [hname] at hkey ⊢
  exact congrArg some hkey

/-- The reference is the same for all blogs with the key and the identity. -/
theorem owner_eq (hbears : ghost.Bears key uid) (howner : ghost.ownerReference? = some owner)
    (hbears' : other.Bears key uid) (howner' : other.ownerReference? = some owner') :
    owner = owner' := by
  have hname : ghost.metadata.name = other.metadata.name :=
    (hbears.name_eq howner).trans (hbears'.name_eq howner').symm
  have huid : ghost.metadata.uid = other.metadata.uid := hbears.uid_eq.trans hbears'.uid_eq.symm
  have hsame : ghost.ownerReference? = other.ownerReference? := by
    unfold ownerReference?
    rw [hname, huid]
  exact Option.some.inj (howner.symm.trans (hsame.trans howner'))

/-- Children of blogs with the key and the identity are created alike, deployments for the same
image tag and number of pods. -/
theorem childOf_eq (hbears : ghost.Bears key uid) (howner : ghost.ownerReference? = some owner)
    (hbears' : other.Bears key uid) (howner' : other.ownerReference? = some owner')
    {kind : ChildKind} (hspec : kind = .deployment →
      ghost.spec.imageTag = other.spec.imageTag ∧ ghost.spec.replicas = other.spec.replicas) :
    ghost.childOf owner kind = other.childOf owner' kind := by
  obtain rfl := hbears.owner_eq howner hbears' howner'
  have hteam : ghost.team = other.team := hbears.team_eq.trans hbears'.team_eq.symm
  have hname : ghost.metadata.name = other.metadata.name :=
    (hbears.name_eq howner).trans (hbears'.name_eq howner').symm
  have hchild : ghost.child kind = other.child kind := by
    cases kind with
    | volumeClaim => simp only [child, volumeClaim, hteam]
    | deployment =>
      obtain ⟨htag, hreplicas⟩ := hspec rfl
      simp only [child, deployment, deploymentSpec, container, hteam, htag, hreplicas]
    | service => simp only [child, service, hteam]
    | ingress =>
      have hdisplay : ghost.metadata.displayName = other.metadata.displayName := by
        unfold Metadata.displayName
        rw [hname, hbears'.name_eq howner']
        rfl
      simp only [child, ingress, hteam, hdisplay]
  unfold childOf
  rw [hteam, hchild]

end Ghost.Bears

/-! ### Children that were made -/

/-- A child as some blog with the key and the identity has it created. -/
def ChildKind.Made (key : Key) (uid : String) (kind : ChildKind) (object : kind.Object) : Prop :=
  ∃ (blog : Ghost) (owner : OwnerReference) (version : UInt64),
    blog.Bears key uid ∧ blog.ownerReference? = some owner ∧
      object = kind.stamped version (blog.childOf owner kind)

section Made

variable {key : Key} {uid : String} {ghost : Ghost} {owner : OwnerReference}

/-- A deployment that was made and is given the specification of another blog is a deployment that
was made. -/
theorem ChildKind.Made.replaced {live : Deployment}
    (hmade : ChildKind.Made key uid .deployment live) (hbears : ghost.Bears key uid)
    (version : UInt64) :
    ChildKind.Made key uid .deployment
      (ChildKind.deployment.stamped version { live with spec := ghost.deployment.spec }) := by
  obtain ⟨blog, owner, version', hbears', howner, rfl⟩ := hmade
  -- The other blog may have no name, and then there is no reference to it.
  let third : Ghost := { blog with spec := ghost.spec }
  have hspec : ghost.deployment.spec = third.deployment.spec := by
    have hteam : ghost.team = third.team := hbears.team_eq.trans hbears'.team_eq.symm
    simp only [Ghost.deployment, Ghost.deploymentSpec, Ghost.container, hteam, third]
  rw [hspec]
  exact ⟨third, owner, version, ⟨hbears'.key_eq, hbears'.uid_eq⟩, howner, rfl⟩

/-- What a write puts in place was made, if the child that was there was. -/
theorem Ghost.Wants.made {team : String} {kind : ChildKind} {live : Option kind.Object}
    {write : Write} (hwants : ghost.Wants team kind live write) (hbears : ghost.Bears key uid)
    (hlive : ∀ object, live = some object → kind.Made key uid object) {version : UInt64}
    {object : write.kind.Object} (hleft : write.left? version = some object) :
    write.kind.Made key uid object := by
  cases hwants with
  | creation howner hwanted =>
    cases hleft
    exact ⟨ghost, _, version, hbears, howner, rfl⟩
  | @replacement live hdrifted =>
    cases hleft
    exact (hlive live rfl).replaced hbears version
  | removal hunwanted => cases hleft

/-! ### What is ordered -/

/-- The child of a kind that a blog wants to have, with a blank version. -/
def Ghost.ordered (ghost : Ghost) (owner : OwnerReference) (kind : ChildKind) :
    Option kind.Object :=
  if kind = .ingress ∧ ghost.spec.enableIngress = false then none
  else some (kind.blank (ghost.childOf owner kind))

/-- Blogs with the key, the identity and the specification order the same. -/
theorem Ghost.Bears.ordered_eq {other : Ghost} {owner' : OwnerReference}
    (hbears : ghost.Bears key uid) (howner : ghost.ownerReference? = some owner)
    (hbears' : other.Bears key uid) (howner' : other.ownerReference? = some owner')
    (hspec : ghost.spec = other.spec) (kind : ChildKind) :
    ghost.ordered owner kind = other.ordered owner' kind := by
  have hchild : ghost.childOf owner kind = other.childOf owner' kind :=
    hbears.childOf_eq howner hbears' howner' fun _ ↦ by simp [hspec]
  unfold ordered
  rw [hchild, hspec]

/-- A child that was made and needs no write is the one that is ordered. -/
theorem ChildKind.Made.unversioned_eq {kind : ChildKind} {object : kind.Object}
    (hmade : kind.Made key uid object) (hbears : ghost.Bears key uid)
    (howner : ghost.ownerReference? = some owner) (hrest : ghost.AtRest kind (some object)) :
    kind.unversioned object = kind.blank (ghost.childOf owner kind) := by
  obtain ⟨blog, owner', version, hbears', howner', rfl⟩ := hmade
  rw [unversioned_stamped, hbears'.childOf_eq howner' hbears howner]
  rintro rfl
  -- Of a deployment that was made, what is compared is what sets the blogs apart.
  cases hrest with
  | deployment hreplicas himage =>
    exact ⟨imageName_injective (Option.some.inj himage), hreplicas⟩

/-- What is left of a child that was made, or of none, was made. -/
theorem Ghost.Leaves.made {kind : ChildKind} {found left : Option kind.Object}
    (hleaves : ghost.Leaves kind found left) (hbears : ghost.Bears key uid)
    (hfound : ∀ object, found = some object → kind.Made key uid object) :
    ∀ object, left = some object → kind.Made key uid object := by
  intro object hobject
  cases hleaves with
  | kept hrest => exact hfound object hobject
  | created version howner hwanted =>
    cases hobject
    exact ⟨ghost, _, version, hbears, howner, rfl⟩
  | @replaced live version hdrifted =>
    cases hobject
    exact (hfound live rfl).replaced hbears version
  | removed hunwanted => cases hobject

/-- A step leaves of a child that was made, or of none, what the blog has ordered. -/
theorem Ghost.Leaves.eq_ordered {kind : ChildKind} {found left : Option kind.Object}
    (hleaves : ghost.Leaves kind found left) (hbears : ghost.Bears key uid)
    (howner : ghost.ownerReference? = some owner)
    (hfound : ∀ object, found = some object → kind.Made key uid object) :
    left.map kind.unversioned = ghost.ordered owner kind := by
  have hmade := hleaves.made hbears hfound
  have hrest := hleaves.atRest
  unfold ordered
  cases left with
  | none =>
    cases hrest with
    | noIngress hunwanted => simp [hunwanted]
  | some object =>
    have hwanted : ¬(kind = .ingress ∧ ghost.spec.enableIngress = false) := by
      rintro ⟨rfl, hunwanted⟩
      cases hrest with
      | ingress live hwanted => simp [hunwanted] at hwanted
    rw [if_neg hwanted, Option.map_some]
    exact congrArg some ((hmade object rfl).unversioned_eq hbears howner hrest)

end Made

end BlogOperator
