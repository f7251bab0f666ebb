import BlogOperator.Cluster.Memory
import BlogOperator.Proofs.Round

/-!
# Rollouts

The `Deployment.profile` of a deployment is all that is compared of it: how many pods it runs, and
the image of its first container. `Standing.ofDeployment_some` says so, and `profile_deployment_inj`
that the profiles that two blogs ask for differ exactly where their numbers of pods or their tags
do. `Deployment.rolledOut` is a deployment with the specification that a blog asks for and
everything else as it was; it has the profile asked for (`profile_rolledOut`).

The step for a deployment is one lookup where the profile is the one asked for
(`exchanges_putInPlace_settled`), and a lookup and a replacement otherwise
(`exchanges_putInPlace_drifted`). `rollout_exact` puts this together: a rollout happens only where it
is due, changes nothing but the specification, and leaves nothing to be rolled out for the blog and
for those that ask for the same.
-/

set_option autoImplicit false

namespace BlogOperator

open BlogOperator.Kubernetes

/-! ### Profiles -/

namespace Kubernetes.Deployment

/-- What is compared of a deployment: the number of pods, one where none is given, and the image of
the first container. -/
def profile (deployment : Deployment) : Int32 × Option String :=
  (deployment.effectiveReplicas, deployment.firstImage?)

/-- A deployment with the specification that a blog asks for. -/
def rolledOut (live : Deployment) (ghost : Ghost) : Deployment :=
  { live with spec := ghost.deployment.spec }

theorem profile_deployment (ghost : Ghost) :
    ghost.deployment.profile = (ghost.spec.replicas, some (imageName ghost.spec.imageTag)) := rfl

/-- Blogs ask for one profile exactly if they ask for as many pods with the same tag. -/
theorem profile_deployment_inj {ghost other : Ghost} :
    ghost.deployment.profile = other.deployment.profile ↔
      other.spec.replicas = ghost.spec.replicas ∧ other.spec.imageTag = ghost.spec.imageTag := by
  rw [profile_deployment, profile_deployment, Prod.mk.injEq, Option.some.injEq,
    imageName_injective.eq_iff]
  constructor
  · rintro ⟨hreplicas, htag⟩
    exact ⟨hreplicas.symm, htag.symm⟩
  · rintro ⟨hreplicas, htag⟩
    exact ⟨hreplicas.symm, htag.symm⟩

theorem profile_rolledOut (live : Deployment) (ghost : Ghost) :
    (live.rolledOut ghost).profile = ghost.deployment.profile := rfl

/-- A deployment serves the blogs that ask for its profile. -/
theorem serves_iff_profile {deployment : Deployment} {ghost : Ghost} :
    deployment.serves ghost = true ↔ deployment.profile = ghost.deployment.profile := by
  rw [serves_iff, profile_deployment, profile, Prod.mk.injEq]

end Kubernetes.Deployment

open Kubernetes.Deployment

/-! ### Standings -/

/-- A deployment that exists is settled if it has the profile that the blog asks for, and has
drifted otherwise. -/
theorem Standing.ofDeployment_some (live : Deployment) (ghost : Ghost) :
    Standing.ofDeployment (some live) ghost =
      if live.profile = ghost.deployment.profile then .settled live else .drifted live := by
  change (if live.serves ghost = true then Standing.settled live else .drifted live) = _
  by_cases hprofile : live.profile = ghost.deployment.profile
  · rw [if_pos hprofile, if_pos (serves_iff_profile.2 hprofile)]
  · rw [if_neg hprofile, if_neg fun hserves ↦ hprofile (serves_iff_profile.1 hserves)]

theorem Standing.ofDeployment_eq_settled {live : Deployment} {ghost : Ghost} :
    Standing.ofDeployment (some live) ghost = .settled live ↔
      live.profile = ghost.deployment.profile := by
  rw [ofDeployment_some]
  by_cases hprofile : live.profile = ghost.deployment.profile
  · simp [hprofile]
  · simp [hprofile]

theorem Standing.ofDeployment_eq_drifted {live : Deployment} {ghost : Ghost} :
    Standing.ofDeployment (some live) ghost = .drifted live ↔
      live.profile ≠ ghost.deployment.profile := by
  rw [ofDeployment_some]
  by_cases hprofile : live.profile = ghost.deployment.profile
  · simp [hprofile]
  · simp [hprofile]

/-! ### Steps -/

section Steps

variable {σ : Type} {environment : Environment σ} {ghost : Ghost} {team : String}
  {live : Deployment} {state after : σ}

/-- The lookup of a team's deployment. -/
def Call.findDeployment (team : String) : Call :=
  .find .deployment ⟨team, ChildKind.deployment.childName team⟩

/-- The step for a deployment that has the profile asked for is a lookup. -/
theorem exchanges_putInPlace_settled
    (hfound : environment.answer (.findDeployment team) state = (.ok (some live), after))
    (hprofile : live.profile = ghost.deployment.profile) :
    ((ghost.putInPlace team .deployment).run environment state).exchanges =
      [⟨.findDeployment team, .ok (some live)⟩] := by
  have hdue : ghost.due? team .deployment (some live) = .ok none := by
    rw [Ghost.due?_deployment, if_pos (serves_iff_profile.2 hprofile)]
  unfold Call.findDeployment at hfound
  rw [Ghost.run_putInPlace, hfound]
  dsimp only
  rw [hdue]
  rfl

/-- The step for a deployment that has another profile is a lookup, and the replacement of the
deployment by what it is rolled out to. -/
theorem exchanges_putInPlace_drifted
    (hfound : environment.answer (.findDeployment team) state = (.ok (some live), after))
    (hprofile : live.profile ≠ ghost.deployment.profile) :
    ((ghost.putInPlace team .deployment).run environment state).exchanges =
      [⟨.findDeployment team, .ok (some live)⟩,
        ⟨.change (.replace (live.rolledOut ghost)),
          (environment.answer (.change (.replace (live.rolledOut ghost))) after).1⟩] := by
  have hdue : ghost.due? team .deployment (some live) =
      .ok (some (.replace (live.rolledOut ghost))) := by
    rw [Ghost.due?_deployment, if_neg fun hserves ↦ hprofile (serves_iff_profile.1 hserves)]
    rfl
  unfold Call.findDeployment at hfound
  rw [Ghost.run_putInPlace, hfound]
  dsimp only
  rw [hdue]
  dsimp only
  rw [Run.exchanges_after, Ghost.exchanges_carryOut]
  rfl

end Steps

/-- Of a deployment only the profile counts: it is settled if that is the profile of the deployment
that the blog asks for and has drifted otherwise, and so are all others with the same profile. The
step that finds it in whatever cluster then makes no other call if it is settled. If it has
drifted, one replacement follows, by an object with the metadata and the rest of the one that was
found and the specification that the blog asks for; that object is settled for the blogs that ask
for as many pods with the same tag, and for no others. -/
theorem rollout_exact (ghost : Ghost) (live : Deployment) :
    (Standing.ofDeployment (some live) ghost = .settled live ↔
        live.profile = ghost.deployment.profile) ∧
      (Standing.ofDeployment (some live) ghost = .drifted live ↔
        live.profile ≠ ghost.deployment.profile) ∧
      (∀ other : Deployment, other.profile = live.profile →
        (Standing.ofDeployment (some other) ghost = .settled other ↔
            Standing.ofDeployment (some live) ghost = .settled live) ∧
          (Standing.ofDeployment (some other) ghost = .drifted other ↔
            Standing.ofDeployment (some live) ghost = .drifted live)) ∧
      ∀ {σ : Type} (environment : Environment σ) (team : String) (state after : σ),
        environment.answer (.findDeployment team) state = (.ok (some live), after) →
        let lookup : Exchange := ⟨.findDeployment team, .ok (some live)⟩
        let step := (ghost.putInPlace team .deployment).run environment state
        (Standing.ofDeployment (some live) ghost = .settled live → step.exchanges = [lookup]) ∧
          (Standing.ofDeployment (some live) ghost = .drifted live →
            ∃ replaced reply, step.exchanges = [lookup, ⟨.change (.replace replaced), reply⟩] ∧
              replaced.metadata = live.metadata ∧ replaced.others = live.others ∧
              replaced.spec = ghost.deployment.spec ∧
              ∀ next : Ghost, Standing.ofDeployment (some replaced) next = .settled replaced ↔
                next.spec.replicas = ghost.spec.replicas ∧
                  next.spec.imageTag = ghost.spec.imageTag) := by
  refine ⟨Standing.ofDeployment_eq_settled, Standing.ofDeployment_eq_drifted, ?_, ?_⟩
  · intro other hsame
    rw [Standing.ofDeployment_eq_settled, Standing.ofDeployment_eq_settled,
      Standing.ofDeployment_eq_drifted, Standing.ofDeployment_eq_drifted, hsame]
    exact ⟨Iff.rfl, Iff.rfl⟩
  · intro σ environment team state after hfound lookup step
    constructor
    · intro hsettled
      exact exchanges_putInPlace_settled hfound (Standing.ofDeployment_eq_settled.1 hsettled)
    · intro hdrifted
      have hexchanges :=
        exchanges_putInPlace_drifted hfound (Standing.ofDeployment_eq_drifted.1 hdrifted)
      refine ⟨live.rolledOut ghost, _, hexchanges, rfl, rfl, rfl, fun next ↦ ?_⟩
      rw [Standing.ofDeployment_eq_settled, profile_rolledOut, profile_deployment_inj]

/-- A deployment without a number of pods runs one, with version 4 in the first container and
another container beside it. For a blog with version 5 and three pods it has drifted, as has one
that says it runs one pod of version 4. When it is replaced it keeps its labels, its version and its
status, and is settled for a blog that asks for the same without a route from outside. -/
theorem rollout_exact_marketing :
    let ghost : Ghost := {
      metadata := { name := some "blog", namespaceName := some "marketing" }
      spec := ⟨"5", 3, true⟩ }
    let unrouted : Ghost := { ghost with spec := ⟨"5", 3, false⟩ }
    let live : Deployment := {
      metadata := {
        name := some "ghost-deployment-marketing", namespaceName := some "marketing"
        resourceVersion := some "1", labels := some [("edited", "by-hand")] }
      spec := some { template := { spec := some {
        containers := [{ image := some "ghost:4" }, { image := some "proxy" }] } } }
      others := [("status", .object [("replicas", .number (.integer 1))])] }
    let plain : Deployment := {
      spec := some { replicas := some 1, template := { spec := some {
        containers := [{ image := some "ghost:4" }] } } } }
    let cluster := (({} : Memory).serveWrite (.create .deployment live)).2
    let step := (ghost.putInPlace "marketing" .deployment).run Memory.environment cluster
    Standing.ofDeployment (some live) ghost = .drifted live ∧
      Standing.ofDeployment (some plain) ghost = .drifted plain ∧
      ∃ replaced reply, step.exchanges =
          [⟨.findDeployment "marketing", .ok (some live)⟩, ⟨.change (.replace replaced), reply⟩] ∧
        replaced.metadata = live.metadata ∧ replaced.others = live.others ∧
        replaced.spec = ghost.deployment.spec ∧
        Standing.ofDeployment (some replaced) unrouted = .settled replaced := by
  intro ghost unrouted live plain cluster step
  have hfound : Memory.environment.answer (.findDeployment "marketing") cluster =
      (.ok (some live), cluster.recorded (.find .deployment)) := rfl
  have hother : plain.profile = live.profile := rfl
  have hprofile : live.profile ≠ ghost.deployment.profile := by decide
  obtain ⟨-, hdrifts, halike, hsteps⟩ := rollout_exact ghost live
  have hdrifted := hdrifts.2 hprofile
  obtain ⟨-, hreplacement⟩ := hsteps Memory.environment "marketing" cluster _ hfound
  obtain ⟨replaced, reply, hexchanges, hmetadata, hothers, hspec, hsettled⟩ :=
    hreplacement hdrifted
  exact ⟨hdrifted, (halike plain hother).2.2 hdrifted, replaced, reply, hexchanges, hmetadata,
    hothers, hspec, (hsettled unrouted).2 ⟨rfl, rfl⟩⟩

end BlogOperator
