import BlogOperator.Cluster.Memory
import Mathlib.Logic.Function.Basic

/-!
# What a team has of a cluster

A `TeamView` holds the blogs and the children in one namespace, and the faults of the cluster.
`Memory.view` is what a team has of a cluster in memory. A call is about the team of its key
(`Call.team`), and `TeamView.answer` answers the calls that are about the team of the view. To do so
it must be told which version to give to what the call writes: versions are the only thing that the
teams of a cluster share.

`Memory.view_answer` says that the cluster answers a call as the view of its team does, and that the
view of its team changes accordingly. `Memory.view_answer_of_ne` says that no other view changes.
-/

set_option autoImplicit false

namespace BlogOperator

open BlogOperator.Kubernetes

/-! ### The team of a call -/

theorem Key.mk_eq_iff {namespaceName name : String} {key : Key} :
    ⟨namespaceName, name⟩ = key ↔ namespaceName = key.namespaceName ∧ name = key.name := by
  cases key
  exact Key.mk.injEq _ _ _ _ ▸ Iff.rfl

/-- The key of the child that is written. -/
def Write.key : Write → Key
  | .create kind object => .ofMetadata (kind.metadata object)
  | .replace deployment => .ofMetadata deployment.metadata
  | .remove key => key

/-- The key of the object that a call is about. -/
def Call.key : Call → Key
  | .readGhost key => key
  | .writeStatus ghost _ => .ofMetadata ghost.metadata
  | .find _ key => key
  | .change write => write.key

/-- The team that a call is about. -/
def Call.team (request : Call) : String :=
  request.key.namespaceName

/-! ### Views -/

/-- What a team has of a cluster: the objects in its namespace by name, and the faults. -/
@[ext] structure TeamView where
  faults : CallName → Option String
  ghosts : String → Option Ghost
  children : (kind : ChildKind) → String → Option kind.Object

/-- A child as it is stored with a version. -/
def ChildKind.stamped (kind : ChildKind) (version : UInt64) (object : kind.Object) : kind.Object :=
  kind.withMetadata object (Memory.stamp version (kind.metadata object))

@[simp] theorem ChildKind.metadata_stamped (kind : ChildKind) (version : UInt64)
    (object : kind.Object) :
    kind.metadata (kind.stamped version object) = Memory.stamp version (kind.metadata object) :=
  kind.metadata_withMetadata object _

namespace TeamView

/-- The view with a blog under a name. -/
def withGhost (view : TeamView) (name : String) (ghost : Ghost) : TeamView :=
  { view with ghosts := Function.update view.ghosts name (some ghost) }

/-- The view with a child of a kind under a name, or with none. -/
def withChild (view : TeamView) (kind : ChildKind) (name : String) (object : Option kind.Object) :
    TeamView :=
  { view with
    children := Function.update view.children kind
      (Function.update (view.children kind) name object) }

/-- Writes the status of a blog that is still of the version given. -/
def serveStatus (version : UInt64) (ghost : Ghost) (status : GhostStatus) (view : TeamView) :
    Except Failure Unit × TeamView :=
  let key := Key.ofMetadata ghost.metadata
  match view.ghosts key.name with
  | none => (.error (Memory.notFound key), view)
  | some stored =>
    if stored.metadata.resourceVersion = ghost.metadata.resourceVersion then
      (.ok (), view.withGhost key.name
        { stored with metadata := Memory.stamp version stored.metadata, status := some status })
    else (.error (Memory.conflict key), view)

/-- Writes a child. -/
def serveWrite (version : UInt64) (view : TeamView) : Write → Except Failure Unit × TeamView
  | .create kind object =>
    let key := Key.ofMetadata (kind.metadata object)
    match view.children kind key.name with
    | some _ => (.error (Memory.alreadyExists key), view)
    | none => (.ok (), view.withChild kind key.name (some (kind.stamped version object)))
  | .replace deployment =>
    let key := Key.ofMetadata deployment.metadata
    match (view.children .deployment key.name : Option Deployment) with
    | none => (.error (Memory.notFound key), view)
    | some stored =>
      if stored.metadata.resourceVersion = deployment.metadata.resourceVersion then
        (.ok (), view.withChild .deployment key.name
          (some (ChildKind.deployment.stamped version deployment)))
      else (.error (Memory.conflict key), view)
  | .remove key =>
    match view.children .ingress key.name with
    | none => (.error (Memory.notFound key), view)
    | some _ => (.ok (), view.withChild .ingress key.name none)

/-- What a call does when it is not made to fail. -/
def serve (version : UInt64) : (request : Call) → TeamView → request.Reply × TeamView
  | .readGhost key, view => (.ok (view.ghosts key.name), view)
  | .writeStatus ghost status, view => view.serveStatus version ghost status
  | .find kind key, view => (.ok (view.children kind key.name), view)
  | .change write, view => view.serveWrite version write

/-- Answers a call about the team. What the call writes gets the version given. -/
def answer (version : UInt64) (request : Call) (view : TeamView) : request.Reply × TeamView :=
  match view.faults request.name with
  | some message => (.error (.api message), view)
  | none => view.serve version request

/-! ### What is found -/

section Find

variable (view : TeamView)

@[simp] theorem ghosts_withGhost_self (name : String) (ghost : Ghost) :
    (view.withGhost name ghost).ghosts name = some ghost := by
  simp [withGhost]

theorem ghosts_withGhost_of_ne {name other : String} (hname : other ≠ name) (ghost : Ghost) :
    (view.withGhost name ghost).ghosts other = view.ghosts other := by
  simp [withGhost, hname]

@[simp] theorem children_withChild_self (kind : ChildKind) (name : String)
    (object : Option kind.Object) :
    (view.withChild kind name object).children kind name = object := by
  simp [withChild]

theorem children_withChild_of_ne {kind other : ChildKind} {name place : String}
    (hplace : other ≠ kind ∨ place ≠ name) (object : Option kind.Object) :
    (view.withChild kind name object).children other place = view.children other place := by
  unfold withChild
  by_cases hkind : other = kind
  · subst hkind
    have hname : place ≠ name := hplace.resolve_left (not_not_intro rfl)
    simp [Function.update_of_ne hname]
  · simp [Function.update_of_ne hkind]

/-- A view is not changed by putting there what is there. -/
theorem withGhost_self {view : TeamView} {name : String} {ghost : Ghost}
    (hghost : view.ghosts name = some ghost) : view.withGhost name ghost = view := by
  unfold withGhost
  rw [← hghost, Function.update_eq_self]

end Find

end TeamView

/-! ### Views of a cluster in memory -/

namespace Memory

/-- What a team has of a cluster in memory. -/
def view (memory : Memory) (team : String) : TeamView where
  faults := memory.faults
  ghosts name := memory.ghosts.find? ⟨team, name⟩
  children kind name := (memory.children.shelf kind).find? ⟨team, name⟩

variable (memory : Memory)

theorem view_storeGhost (key : Key) (ghost : Ghost) :
    (memory.storeGhost key ghost).view key.namespaceName =
      (memory.view key.namespaceName).withGhost key.name
        { ghost with metadata := stamp (memory.version + 1) ghost.metadata } := by
  ext1
  · rfl
  · funext name
    simp only [view, storeGhost, TeamView.withGhost, Shelf.find?_insert, Function.update_apply,
      Key.mk_eq_iff, true_and]
  · rfl

theorem view_storeGhost_of_ne {key : Key} {team : String} (hteam : team ≠ key.namespaceName)
    (ghost : Ghost) : (memory.storeGhost key ghost).view team = memory.view team := by
  ext1
  · rfl
  · funext name
    simp only [view, storeGhost, Shelf.find?_insert, Key.mk_eq_iff, hteam, false_and, if_false]
  · rfl

theorem view_storeChild (kind : ChildKind) (key : Key) (object : kind.Object) :
    (memory.storeChild kind key object).view key.namespaceName =
      (memory.view key.namespaceName).withChild kind key.name
        (some (kind.stamped (memory.version + 1) object)) := by
  ext1
  · rfl
  · rfl
  · funext other name
    by_cases hkind : other = kind
    · subst hkind
      simp only [view, storeChild, TeamView.withChild, Children.shelf_withShelf_self,
        Shelf.find?_insert, Function.update_self, Function.update_apply, Key.mk_eq_iff, true_and]
      rfl
    · rw [TeamView.children_withChild_of_ne _ (.inl hkind)]
      simp only [view, storeChild, Children.shelf_withShelf_of_ne _ hkind]

theorem view_storeChild_of_ne (kind : ChildKind) {key : Key} {team : String}
    (hteam : team ≠ key.namespaceName) (object : kind.Object) :
    (memory.storeChild kind key object).view team = memory.view team := by
  ext1
  · rfl
  · rfl
  · funext other name
    by_cases hkind : other = kind
    · subst hkind
      simp only [view, storeChild, Children.shelf_withShelf_self, Shelf.find?_insert,
        Key.mk_eq_iff, hteam, false_and, if_false]
    · simp only [view, storeChild, Children.shelf_withShelf_of_ne _ hkind]

/-- A cluster without the ingress under a key. -/
def withoutIngress (key : Key) : Memory :=
  { memory with
    children := memory.children.withShelf .ingress (memory.children.ingresses.erase key) }

theorem view_withoutIngress (key : Key) :
    (memory.withoutIngress key).view key.namespaceName =
      (memory.view key.namespaceName).withChild .ingress key.name none := by
  ext1
  · rfl
  · rfl
  · funext other name
    by_cases hkind : other = .ingress
    · subst hkind
      simp only [view, withoutIngress, TeamView.withChild, Children.shelf_withShelf_self,
        Shelf.find?_erase, Function.update_self, Function.update_apply, Key.mk_eq_iff, true_and]
      rfl
    · rw [TeamView.children_withChild_of_ne _ (.inl hkind)]
      simp only [view, withoutIngress, Children.shelf_withShelf_of_ne _ hkind]

theorem view_withoutIngress_of_ne {key : Key} {team : String} (hteam : team ≠ key.namespaceName) :
    (memory.withoutIngress key).view team = memory.view team := by
  ext1
  · rfl
  · rfl
  · funext other name
    by_cases hkind : other = .ingress
    · subst hkind
      simp only [view, withoutIngress, Children.shelf_withShelf_self, Shelf.find?_erase,
        Key.mk_eq_iff, hteam, false_and, if_false]
      rfl
    · simp only [view, withoutIngress, Children.shelf_withShelf_of_ne _ hkind]

theorem view_serveStatus (ghost : Ghost) (status : GhostStatus) :
    let team := (Key.ofMetadata ghost.metadata).namespaceName
    ((serveStatus ghost status memory).1, (serveStatus ghost status memory).2.view team) =
      (memory.view team).serveStatus (memory.version + 1) ghost status := by
  have hstored : (memory.view (Key.ofMetadata ghost.metadata).namespaceName).ghosts
      (Key.ofMetadata ghost.metadata).name = memory.ghosts.find? (Key.ofMetadata ghost.metadata) :=
    rfl
  unfold serveStatus TeamView.serveStatus
  simp only [hstored]
  cases memory.ghosts.find? (Key.ofMetadata ghost.metadata) with
  | none => rfl
  | some stored =>
    dsimp only
    split
    · simp only [view_storeGhost]
    · rfl

theorem view_serveStatus_of_ne {ghost : Ghost} {team : String}
    (hteam : team ≠ (Key.ofMetadata ghost.metadata).namespaceName) (status : GhostStatus) :
    (serveStatus ghost status memory).2.view team = memory.view team := by
  unfold serveStatus
  dsimp only
  cases memory.ghosts.find? (Key.ofMetadata ghost.metadata) with
  | none => rfl
  | some stored =>
    dsimp only
    split
    · exact view_storeGhost_of_ne memory hteam _
    · rfl

theorem view_serveWrite (write : Write) :
    let team := write.key.namespaceName
    ((memory.serveWrite write).1, (memory.serveWrite write).2.view team) =
      (memory.view team).serveWrite (memory.version + 1) write := by
  cases write with
  | create kind object =>
    have hstored : (memory.view (Key.ofMetadata (kind.metadata object)).namespaceName).children kind
        (Key.ofMetadata (kind.metadata object)).name =
          (memory.children.shelf kind).find? (Key.ofMetadata (kind.metadata object)) := rfl
    simp only [serveWrite, TeamView.serveWrite, Write.key, hstored]
    cases (memory.children.shelf kind).find? (Key.ofMetadata (kind.metadata object)) with
    | none => simp only [view_storeChild]
    | some stored => rfl
  | replace deployment =>
    have hstored : (memory.view (Key.ofMetadata deployment.metadata).namespaceName).children
        .deployment (Key.ofMetadata deployment.metadata).name =
          memory.children.deployments.find? (Key.ofMetadata deployment.metadata) := rfl
    simp only [serveWrite, TeamView.serveWrite, Write.key, hstored]
    cases memory.children.deployments.find? (Key.ofMetadata deployment.metadata) with
    | none => rfl
    | some stored =>
      dsimp only
      split
      · simp only [view_storeChild]
      · rfl
  | remove key =>
    have hstored : (memory.view key.namespaceName).children .ingress key.name =
        memory.children.ingresses.find? key := rfl
    simp only [serveWrite, TeamView.serveWrite, Write.key, hstored]
    cases memory.children.ingresses.find? key with
    | none => rfl
    | some stored => exact congrArg (Prod.mk (Except.ok ())) (view_withoutIngress memory key)

theorem view_serveWrite_of_ne {write : Write} {team : String}
    (hteam : team ≠ write.key.namespaceName) :
    (memory.serveWrite write).2.view team = memory.view team := by
  cases write with
  | create kind object =>
    simp only [serveWrite]
    cases (memory.children.shelf kind).find? (Key.ofMetadata (kind.metadata object)) with
    | none => exact view_storeChild_of_ne memory kind hteam object
    | some stored => rfl
  | replace deployment =>
    simp only [serveWrite]
    cases memory.children.deployments.find? (Key.ofMetadata deployment.metadata) with
    | none => rfl
    | some stored =>
      dsimp only
      split
      · exact view_storeChild_of_ne memory .deployment hteam deployment
      · rfl
  | remove key =>
    simp only [serveWrite]
    cases memory.children.ingresses.find? key with
    | none => rfl
    | some stored => exact view_withoutIngress_of_ne memory hteam

/-- A cluster answers a call as the view of its team does. -/
theorem view_answer (request : Call) :
    ((memory.answer request).1, (memory.answer request).2.view request.team) =
      (memory.view request.team).answer (memory.version + 1) request := by
  have hfaults : (memory.view request.team).faults = memory.faults := rfl
  unfold answer TeamView.answer
  rw [hfaults]
  cases memory.faults request.name with
  | some message => rfl
  | none =>
    cases request with
    | readGhost key => rfl
    | writeStatus ghost status => exact view_serveStatus (memory.recorded _) ghost status
    | find kind key => rfl
    | change write => exact view_serveWrite (memory.recorded _) write

/-- A call changes nothing for other teams. -/
theorem view_answer_of_ne {request : Call} {team : String} (hteam : team ≠ request.team) :
    (memory.answer request).2.view team = memory.view team := by
  unfold answer
  cases memory.faults request.name with
  | some message => rfl
  | none =>
    cases request with
    | readGhost key => rfl
    | writeStatus ghost status => exact view_serveStatus_of_ne (memory.recorded _) hteam status
    | find kind key => rfl
    | change write => exact view_serveWrite_of_ne (memory.recorded _) hteam

end Memory

end BlogOperator
