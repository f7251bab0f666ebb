import BlogOperator.Reconcile.Step

/-!
# The write that is due

`Ghost.due?` is the decision of a step: what `Ghost.write?` asks for once a lookup has found
`live`. It goes one of three ways (`due?_cases`). Either a write is due that the blog `Wants`: the
creation of a missing child, the replacement of a deployment that runs something else, or the
removal of an ingress that is switched off. Or no write is due, which is so exactly where the child
is `AtRest` (`due?_eq_none_iff`). Or a child would have to be created for a blog that no reference
can name, and the decision fails.

`Deployment.effectiveReplicas` and `Deployment.firstImage?` are the two things that are compared of
a deployment (`Deployment.serves_iff`), and `Ghost.childOf` is a child as it is created
(`ownedChild_eq`).
-/

set_option autoImplicit false

namespace BlogOperator

open BlogOperator.Kubernetes

/-! ### What is compared of a deployment -/

/-- Different tags give different images. -/
theorem imageName_injective : Function.Injective imageName := by
  intro first second hnames
  have hcharacters := congrArg String.toList hnames
  simp only [imageName, String.toList_append, List.append_cancel_left_eq] at hcharacters
  exact String.toList_inj.1 hcharacters

namespace Kubernetes.Deployment

/-- The number of pods that a deployment runs, one where none is given. -/
def effectiveReplicas (deployment : Deployment) : Int32 :=
  (deployment.spec.bind DeploymentSpec.replicas).getD 1

/-- The image of the first container of a deployment, if it has one. -/
def firstImage? (deployment : Deployment) : Option String :=
  deployment.spec.bind DeploymentSpec.firstImage?

/-- A deployment serves a blog when it runs as many pods as the blog asks for, and the image that
the blog asks for in the first container. -/
theorem serves_iff {deployment : Deployment} {ghost : Ghost} :
    deployment.serves ghost = true ↔
      deployment.effectiveReplicas = ghost.spec.replicas ∧
        deployment.firstImage? = some (imageName ghost.spec.imageTag) := by
  unfold serves effectiveReplicas firstImage?
  cases deployment.spec with
  | none => simp
  | some spec => simp [DeploymentSpec.effectiveReplicas]

/-- A deployment with the specification that a blog asks for serves the blog, whatever its
metadata are. -/
theorem serves_of_spec {deployment : Deployment} {ghost : Ghost}
    (hspec : deployment.spec = ghost.deployment.spec) : deployment.serves ghost = true := by
  rw [serves_iff]
  unfold effectiveReplicas firstImage?
  rw [hspec]
  exact ⟨rfl, rfl⟩

end Kubernetes.Deployment

open Kubernetes.Deployment

namespace Ghost

/-! ### Children as they are created -/

/-- The child of a kind in the desired form, with one owner. -/
def childOf (ghost : Ghost) (owner : OwnerReference) (kind : ChildKind) : kind.Object :=
  kind.withMetadata (ghost.child kind)
    { childMetadata kind ghost.team with ownerReferences := some [owner] }

@[simp] theorem metadata_childOf (ghost : Ghost) (owner : OwnerReference) (kind : ChildKind) :
    kind.metadata (ghost.childOf owner kind) =
      { childMetadata kind ghost.team with ownerReferences := some [owner] } := by
  simp [childOf]

/-- A child can be created for a blog that a reference can name, and for no other. -/
theorem ownedChild_eq (ghost : Ghost) (kind : ChildKind) :
    ghost.ownedChild kind =
      match ghost.ownerReference? with
      | some owner => .ok (ghost.childOf owner kind)
      | none => .error .missingIdentity := by
  unfold ownedChild adopt
  cases ghost.ownerReference? with
  | none => rfl
  | some owner =>
    simp only [metadata_child]
    rfl

/-! ### Decisions -/

/-- The write that is due when a lookup has found `live`. -/
def due? (ghost : Ghost) (team : String) (kind : ChildKind) (live : Option kind.Object) :
    Except Failure (Option Write) :=
  ghost.write? team kind (Standing.ofChild ghost kind live)

/-- A write that a blog wants made after a lookup has found `live`. -/
inductive Wants (ghost : Ghost) (team : String) :
    (kind : ChildKind) → Option kind.Object → Write → Prop
  | creation {kind : ChildKind} {owner : OwnerReference}
      (howner : ghost.ownerReference? = some owner)
      (hwanted : kind = .ingress → ghost.spec.enableIngress = true) :
      Wants ghost team kind none (.create kind (ghost.childOf owner kind))
  | replacement {live : Deployment}
      (hdrifted : live.effectiveReplicas ≠ ghost.spec.replicas ∨
        live.firstImage? ≠ some (imageName ghost.spec.imageTag)) :
      Wants ghost team .deployment (some live)
        (.replace { live with spec := ghost.deployment.spec })
  | removal {live : Ingress} (hunwanted : ghost.spec.enableIngress = false) :
      Wants ghost team .ingress (some live)
        (.remove ⟨team, ChildKind.ingress.childName team⟩)

/-- What a lookup finds of a child that needs no write. -/
inductive AtRest (ghost : Ghost) : (kind : ChildKind) → Option kind.Object → Prop
  | volumeClaim (live : VolumeClaim) : AtRest ghost .volumeClaim (some live)
  | deployment {live : Deployment} (hreplicas : live.effectiveReplicas = ghost.spec.replicas)
      (himage : live.firstImage? = some (imageName ghost.spec.imageTag)) :
      AtRest ghost .deployment (some live)
  | service (live : Service) : AtRest ghost .service (some live)
  | ingress (live : Ingress) (hwanted : ghost.spec.enableIngress = true) :
      AtRest ghost .ingress (some live)
  | noIngress (hunwanted : ghost.spec.enableIngress = false) : AtRest ghost .ingress none

theorem Wants.kind_eq {ghost : Ghost} {team : String} {kind : ChildKind}
    {live : Option kind.Object} {write : Write} (hwants : ghost.Wants team kind live write) :
    write.kind = kind := by
  cases hwants <;> rfl

theorem ofChild_none (ghost : Ghost) (kind : ChildKind) :
    Standing.ofChild ghost kind none = .absent := by
  cases kind <;> rfl

/-- An absent child that is wanted is created. -/
theorem write?_absent {ghost : Ghost} {kind : ChildKind}
    (hwanted : kind = .ingress → ghost.spec.enableIngress = true) (team : String) :
    ghost.write? team kind .absent =
      (ghost.ownedChild kind).map fun object ↦ some (.create kind object) := by
  by_cases hkind : kind = .ingress
  · subst hkind
    unfold write?
    rw [if_pos (hwanted rfl)]
    cases ghost.ownedChild .ingress <;> rfl
  · rw [write?]
    · cases ghost.ownedChild kind <;> rfl
    · exact fun hingress _ ↦ hkind hingress

/-- For a missing child that is wanted its creation is due. -/
theorem due?_none {ghost : Ghost} {kind : ChildKind}
    (hwanted : kind = .ingress → ghost.spec.enableIngress = true) (team : String) :
    ghost.due? team kind none =
      match ghost.ownerReference? with
      | some owner => .ok (some (.create kind (ghost.childOf owner kind)))
      | none => .error .missingIdentity := by
  unfold due?
  rw [ofChild_none, write?_absent hwanted, ownedChild_eq]
  cases ghost.ownerReference? <;> rfl

/-- A missing ingress that nobody wants stays missing. -/
theorem due?_noIngress {ghost : Ghost} (hunwanted : ghost.spec.enableIngress = false)
    (team : String) : ghost.due? team .ingress none = .ok none := by
  simp [due?, Standing.ofChild, Standing.ofIngress, Standing.judge, write?, hunwanted, pure,
    Except.pure]

theorem due?_volumeClaim (ghost : Ghost) (team : String) (live : VolumeClaim) :
    ghost.due? team .volumeClaim (some live) = .ok none := rfl

theorem due?_service (ghost : Ghost) (team : String) (live : Service) :
    ghost.due? team .service (some live) = .ok none := rfl

/-- A deployment that runs something else is replaced. -/
theorem due?_deployment (ghost : Ghost) (team : String) (live : Deployment) :
    ghost.due? team .deployment (some live) =
      if live.serves ghost then .ok none
      else .ok (some (.replace { live with spec := ghost.deployment.spec })) := by
  cases hserves : live.serves ghost <;>
    simp [due?, Standing.ofChild, Standing.ofDeployment, Standing.judge, write?, hserves, pure,
      Except.pure]

/-- An ingress that is switched off is removed. -/
theorem due?_ingress (ghost : Ghost) (team : String) (live : Ingress) :
    ghost.due? team .ingress (some live) =
      if ghost.spec.enableIngress then .ok none
      else .ok (some (.remove ⟨team, ChildKind.ingress.childName team⟩)) := by
  cases hwanted : ghost.spec.enableIngress <;>
    simp [due?, Standing.ofChild, Standing.ofIngress, Standing.judge, write?, hwanted, pure,
      Except.pure]

/-- A decision is a write that the blog wants, no write for a child at rest, or a failure to create
a missing child for a blog without identity. -/
theorem due?_cases (ghost : Ghost) (team : String) (kind : ChildKind)
    (live : Option kind.Object) :
    (∃ write, ghost.due? team kind live = .ok (some write) ∧ ghost.Wants team kind live write) ∨
      (ghost.due? team kind live = .ok none ∧ ghost.AtRest kind live) ∨
      (ghost.due? team kind live = .error .missingIdentity ∧ live = none ∧
        ghost.ownerReference? = none) := by
  cases live with
  | none =>
    by_cases hwanted : kind = .ingress → ghost.spec.enableIngress = true
    · rw [due?_none hwanted]
      cases howner : ghost.ownerReference? with
      | none => exact .inr (.inr ⟨rfl, rfl, rfl⟩)
      | some owner => exact .inl ⟨_, rfl, .creation howner hwanted⟩
    · obtain ⟨rfl, hunwanted⟩ : kind = .ingress ∧ ghost.spec.enableIngress = false := by
        simpa using hwanted
      exact .inr (.inl ⟨due?_noIngress hunwanted team, .noIngress hunwanted⟩)
  | some live =>
    cases kind with
    | volumeClaim => exact .inr (.inl ⟨due?_volumeClaim ghost team live, .volumeClaim live⟩)
    | service => exact .inr (.inl ⟨due?_service ghost team live, .service live⟩)
    | deployment =>
      rw [due?_deployment]
      cases hserves : Deployment.serves live ghost with
      | true =>
        obtain ⟨hreplicas, himage⟩ := serves_iff.1 hserves
        exact .inr (.inl ⟨rfl, .deployment hreplicas himage⟩)
      | false =>
        refine .inl ⟨_, rfl, .replacement ?_⟩
        rw [← Bool.not_eq_true, serves_iff] at hserves
        exact Classical.not_and_iff_not_or_not.1 hserves
    | ingress =>
      rw [due?_ingress]
      cases hwanted : ghost.spec.enableIngress with
      | true => exact .inr (.inl ⟨rfl, .ingress live hwanted⟩)
      | false => exact .inl ⟨_, rfl, .removal hwanted⟩

/-- A write that is due is one that the blog wants. -/
theorem Wants.of_due? {ghost : Ghost} {team : String} {kind : ChildKind}
    {live : Option kind.Object} {write : Write}
    (hdue : ghost.due? team kind live = .ok (some write)) : ghost.Wants team kind live write := by
  rcases due?_cases ghost team kind live with ⟨other, hother, hwants⟩ | ⟨hnone, -⟩ | ⟨herror, -⟩
  · rw [hother] at hdue
    cases hdue
    exact hwants
  · rw [hnone] at hdue
    cases hdue
  · rw [herror] at hdue
    cases hdue

/-- A child for which no write is due is at rest, and the other way round. -/
theorem due?_eq_none_iff {ghost : Ghost} {team : String} {kind : ChildKind}
    {live : Option kind.Object} :
    ghost.due? team kind live = .ok none ↔ ghost.AtRest kind live := by
  constructor
  · intro hdue
    rcases due?_cases ghost team kind live with ⟨write, hwrite, -⟩ | ⟨-, hrest⟩ | ⟨herror, -⟩
    · rw [hwrite] at hdue
      cases hdue
    · exact hrest
    · rw [herror] at hdue
      cases hdue
  · intro hrest
    cases hrest with
    | volumeClaim live => exact due?_volumeClaim ghost team live
    | deployment hreplicas himage =>
      rw [due?_deployment, if_pos (serves_iff.2 ⟨hreplicas, himage⟩)]
    | service live => exact due?_service ghost team live
    | ingress live hwanted => rw [due?_ingress, if_pos hwanted]
    | noIngress hunwanted => exact due?_noIngress hunwanted team

/-- Nothing is wanted of a child at rest. -/
theorem Wants.not_atRest {ghost : Ghost} {team : String} {kind : ChildKind}
    {live : Option kind.Object} {write : Write} (hwants : ghost.Wants team kind live write) :
    ¬ghost.AtRest kind live := by
  intro hrest
  cases hwants with
  | creation howner hwanted =>
    cases hrest with
    | noIngress hunwanted => simp [hunwanted] at hwanted
  | replacement hdrifted =>
    cases hrest with
    | deployment hreplicas himage =>
      exact hdrifted.elim (fun hother ↦ hother hreplicas) fun hother ↦ hother himage
  | removal hunwanted =>
    cases hrest with
    | ingress live hwanted => simp [hunwanted] at hwanted

end Ghost

end BlogOperator
