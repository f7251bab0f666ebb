import BlogOperator.Proofs.Reachable
import BlogOperator.Proofs.Rules
import BlogOperator.Proofs.TeamView

/-!
# Passes that keep to one team

A reply is `Call.Credible` when what it says to have been found belongs under the key that was
asked for; the replies of an orderly cluster are (`Memory.Orderly.credible`). A pass is
`Pass.Confined` to a team when all its calls are about that team as long as the replies are
credible. The round for a key is confined to the team of the key (`confined_reconcile`): the blog
that it reads is in the namespace of the key, and names and namespaces of the children follow from
there.
-/

set_option autoImplicit false

namespace BlogOperator

open BlogOperator.Kubernetes BlogOperator.Time

/-! ### Credible replies -/

/-- What is found belongs under the key that was asked for. -/
def Call.Credible : (request : Call) → request.Reply → Prop
  | .readGhost key, reply =>
    ∀ ghost, reply = .ok (some ghost) → Key.ofMetadata ghost.metadata = key
  | .writeStatus _ _, _ => True
  | .find kind key, reply =>
    ∀ object, reply = .ok (some object) → Key.ofMetadata (kind.metadata object) = key
  | .change _, _ => True

/-- The replies of an orderly cluster are credible. -/
theorem Memory.Orderly.credible {memory : Memory} (horderly : memory.Orderly) (request : Call) :
    request.Credible (memory.answer request).1 := by
  unfold Memory.answer
  cases memory.faults request.name with
  | some message =>
    cases request with
    | readGhost key =>
      intro ghost hreply
      cases hreply
    | writeStatus ghost status => trivial
    | find kind key =>
      intro object hreply
      cases hreply
    | change write => trivial
  | none =>
    cases request with
    | readGhost key =>
      intro ghost hreply
      exact horderly.ghosts_filed (Except.ok.inj hreply)
    | writeStatus ghost status => trivial
    | find kind key =>
      intro object hreply
      exact horderly.children_filed (Except.ok.inj hreply)
    | change write => trivial

/-! ### Confined passes -/

/-- Nothing is put on record, and only credible replies come. -/
def Growth.credible : Growth Unit where
  called _ request reply _ := request.Credible reply
  announced _ _ := True

/-- A pass whose calls are about one team, as long as the replies are credible. -/
def Pass.Confined {α : Type} (team : String) (pass : Pass α) : Prop :=
  pass.Keeps .credible (fun _ request ↦ request.team = team) (fun _ _ ↦ True) ()

/-! ### Rounds are confined -/

namespace Ghost

variable {team : String}

/-- The writes that a blog wants are about the child that was looked up. -/
theorem Wants.key_eq {ghost : Ghost} {kind : ChildKind} {live : Option kind.Object} {write : Write}
    (hwants : ghost.Wants team kind live write) (hteam : ghost.team = team)
    (hfiled : ∀ object, live = some object →
      Key.ofMetadata (kind.metadata object) = ⟨team, kind.childName team⟩) :
    write.key = ⟨team, kind.childName team⟩ := by
  cases hwants with
  | creation howner hwanted =>
    rw [Write.key, metadata_childOf, hteam]
    rfl
  | @replacement live hdrifted => exact hfiled live rfl
  | removal hunwanted => rfl

theorem confined_putInPlace {ghost : Ghost} (hteam : ghost.team = team) (kind : ChildKind) :
    (ghost.putInPlace team kind).Keeps .credible (fun _ request ↦ request.team = team)
      (EitherWay (fun _ ↦ True) fun _ _ ↦ True) () := by
  refine keeps_putInPlace rfl (fun _ _ _ ↦ trivial) (fun _ _ ↦ trivial) (fun _ _ _ _ ↦ trivial) ?_
  intro live _ write hcredible hwants
  have hkey := hwants.key_eq hteam fun object hobject ↦
    hcredible object (congrArg Except.ok hobject)
  have hwrite : write.key.namespaceName = team := by rw [hkey]
  exact keeps_carryOut hwrite (fun _ _ _ ↦ trivial) fun _ _ _ _ ↦ trivial

end Ghost

/-- The round for a key is confined to the team of the key. -/
theorem confined_reconcile (key : Key) (now : Instant) :
    (reconcile key now).Confined key.namespaceName := by
  refine keeps_reconcile rfl (fun _ _ _ ↦ trivial) (fun _ _ ↦ trivial) ?_
  intro ghost _ hcredible
  have hteam : ghost.team = key.namespaceName := congrArg Key.namespaceName (hcredible ghost rfl)
  refine keeps_reconcileGhost (fun kind _ _ _ ↦ Ghost.confined_putInPlace hteam kind) ?_ trivial
  intro verdict _ _
  exact Ghost.keeps_recordStatus (fun _ ↦ trivial) (fun _ ↦ hteam) fun _ _ _ _ ↦ trivial

end BlogOperator
