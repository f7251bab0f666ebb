import BlogOperator.Cluster.Memory

/-!
# Clusters that can come about

An `Operation` is anything that is done to a cluster in memory: users apply, edit and delete blogs,
the cluster collects garbage, faults come and go, and calls arrive, whoever makes them and whatever
they carry. `Memory.Reachable` holds of the clusters that come about when operations are performed
on an empty cluster in any order.

Faults are a part of such a cluster, and they may be any at all (`Reachable.withFaults`). The
cluster is `Memory.Orderly` (`Reachable.orderly`): every object is under the key that its own
metadata give, and every blog has an identity. No call disturbs the order (`Orderly.answer`), and no
other operation does (`Orderly.perform`).
-/

set_option autoImplicit false

namespace BlogOperator

open BlogOperator.Kubernetes

namespace Memory

/-! ### Operations -/

/-- Something that is done to a cluster. -/
inductive Operation where
  /-- A user applies a blog. -/
  | apply (ghost : Ghost)
  /-- A user edits the specification of a blog. -/
  | edit (key : Key) (change : GhostSpec → GhostSpec)
  /-- A user deletes a blog. -/
  | delete (key : Key)
  /-- The cluster removes the children that nobody owns any more. -/
  | collectGarbage
  /-- A sort of calls begins to fail, or to succeed again. -/
  | setFault (name : CallName) (message : Option String)
  /-- A call arrives. -/
  | call (request : Call)

/-- The cluster after an operation. An edit of a blog that does not exist does nothing. -/
def perform (memory : Memory) : Operation → Memory
  | .apply ghost => memory.apply ghost
  | .edit key change => (memory.edit? key change).getD memory
  | .delete key => memory.delete key
  | .collectGarbage => memory.collectGarbage
  | .setFault name message => memory.setFault name message
  | .call request => (memory.answer request).2

/-- The clusters that come about when operations are performed in any order. -/
inductive Reachable : Memory → Prop
  | empty : Reachable {}
  | perform {memory : Memory} (hreachable : Reachable memory) (operation : Operation) :
      Reachable (memory.perform operation)

/-- Operations may be performed one after another. -/
theorem Reachable.foldl {memory : Memory} (hreachable : memory.Reachable)
    (operations : List Operation) : (operations.foldl Memory.perform memory).Reachable := by
  induction operations generalizing memory with
  | nil => exact hreachable
  | cons operation operations ih => exact ih (hreachable.perform operation)

/-- Applying a blog stores it under its key. -/
theorem find?_perform_apply (memory : Memory) (ghost : Ghost) (key : Key) :
    (memory.perform (.apply ghost)).ghosts.find? key =
      let place := Key.ofMetadata ghost.metadata
      let admitted := memory.admitted place ghost
      if key = place then
        some { admitted with metadata := stamp (memory.version + 1) admitted.metadata }
      else memory.ghosts.find? key :=
  Shelf.find?_insert _ _ key _

/-- An edit changes the specification of the blog under a key, if there is one. -/
theorem find?_perform_edit (memory : Memory) (place : Key) (change : GhostSpec → GhostSpec)
    (key : Key) :
    (memory.perform (.edit place change)).ghosts.find? key =
      if key = place then
        (memory.ghosts.find? key).map fun stored ↦
          { stored with
            metadata := stamp (memory.version + 1) stored.metadata
            spec := change stored.spec }
      else memory.ghosts.find? key := by
  simp only [perform, Memory.edit?]
  by_cases hkey : key = place
  · subst hkey
    rw [if_pos rfl]
    cases hstored : memory.ghosts.find? key with
    | none => exact hstored
    | some stored => exact Shelf.find?_insert_self _ key _
  · rw [if_neg hkey]
    cases memory.ghosts.find? place with
    | none => rfl
    | some stored => exact Shelf.find?_insert_of_ne _ hkey _

/-- The blogs that are left when one is deleted. -/
theorem find?_delete (memory : Memory) (key other : Key) :
    (memory.delete key).ghosts.find? other =
      if other = key then none else memory.ghosts.find? other :=
  Shelf.find?_erase memory.ghosts key other

/-- A blog that is left when one is deleted was there before. -/
theorem find?_of_delete {memory : Memory} {key other : Key} {ghost : Ghost}
    (hghost : (memory.delete key).ghosts.find? other = some ghost) :
    memory.ghosts.find? other = some ghost := by
  rw [find?_delete] at hghost
  split at hghost
  · cases hghost
  · exact hghost

/-! ### Faults -/

/-- All sorts of calls. -/
def callNames : List CallName :=
  [.readGhost, .writeStatus, .replace, .remove] ++ ChildKind.all.map .find ++
    ChildKind.all.map .create

theorem mem_callNames (name : CallName) : name ∈ callNames := by
  cases name with
  | find kind => simp [callNames, ChildKind.mem_all]
  | create kind => simp [callNames, ChildKind.mem_all]
  | readGhost => simp [callNames]
  | writeStatus => simp [callNames]
  | replace => simp [callNames]
  | remove => simp [callNames]

/-- Faults can be set for some sorts of calls one after another. -/
theorem Reachable.withSomeFaults {memory : Memory} (hreachable : memory.Reachable)
    (faults : CallName → Option String) (names : List CallName) :
    Reachable { memory with
      faults := fun name ↦ if name ∈ names then faults name else memory.faults name } := by
  induction names with
  | nil => simpa using hreachable
  | cons first rest ih =>
    have hset := ih.perform (.setFault first (faults first))
    have hfaults : (fun name ↦ if name ∈ first :: rest then faults name else memory.faults name) =
        fun name ↦ if name = first then faults first
          else if name ∈ rest then faults name else memory.faults name := by
      funext name
      by_cases hname : name = first
      · simp [hname]
      · simp [hname]
    rw [hfaults]
    exact hset

/-- A cluster that can come about can do so with any faults. -/
theorem Reachable.withFaults {memory : Memory} (hreachable : memory.Reachable)
    (faults : CallName → Option String) : Reachable { memory with faults } := by
  have hall := hreachable.withSomeFaults faults callNames
  simpa only [mem_callNames, if_true] using hall

/-! ### Order -/

/-- Garbage collection leaves the children that may stay. -/
theorem find?_collectGarbage_eq (memory : Memory) (kind : ChildKind) (key : Key) :
    (memory.collectGarbage.children.shelf kind).find? key =
      ((memory.children.shelf kind).find? key).filter fun object ↦
        mayStay memory.livingGhosts (kind.metadata object) := by
  have hstays : memory.collectGarbage.children.shelf kind =
      (memory.children.shelf kind).filter fun _ object ↦
        mayStay memory.livingGhosts (kind.metadata object) := by
    cases kind <;> rfl
  rw [hstays, Shelf.find?_filter]

/-- Garbage collection only takes children away. -/
theorem find?_collectGarbage {memory : Memory} {kind : ChildKind} {key : Key}
    {object : kind.Object}
    (hobject : (memory.collectGarbage.children.shelf kind).find? key = some object) :
    (memory.children.shelf kind).find? key = some object := by
  rw [find?_collectGarbage_eq] at hobject
  exact (Option.filter_eq_some_iff.1 hobject).1

@[simp] theorem ofMetadata_stamp (version : UInt64) (metadata : Metadata) :
    Key.ofMetadata (stamp version metadata) = Key.ofMetadata metadata := rfl

/-- A cluster in which everything is where it belongs. -/
structure Orderly (memory : Memory) : Prop where
  /-- Blogs are under their own keys. -/
  ghosts_filed : ∀ {key : Key} {ghost : Ghost},
    memory.ghosts.find? key = some ghost → Key.ofMetadata ghost.metadata = key
  /-- Blogs have identities. -/
  ghosts_identified : ∀ {key : Key} {ghost : Ghost},
    memory.ghosts.find? key = some ghost → ghost.metadata.uid ≠ none
  /-- Children are under their own keys. -/
  children_filed : ∀ {kind : ChildKind} {key : Key} {object : kind.Object},
    (memory.children.shelf kind).find? key = some object →
      Key.ofMetadata (kind.metadata object) = key

theorem orderly_empty : Orderly {} where
  ghosts_filed hghost := by cases hghost
  ghosts_identified hghost := by cases hghost
  children_filed {kind _ _} hobject := by cases kind <;> cases hobject

namespace Orderly

variable {memory : Memory}

/-- Order is a matter of what is stored: faults, records and numbers have no part in it. -/
theorem of_stores {other : Memory} (horderly : memory.Orderly)
    (hghosts : other.ghosts = memory.ghosts) (hchildren : other.children = memory.children) :
    other.Orderly where
  ghosts_filed hghost := horderly.ghosts_filed (hghosts ▸ hghost)
  ghosts_identified hghost := horderly.ghosts_identified (hghosts ▸ hghost)
  children_filed hobject := horderly.children_filed (hchildren ▸ hobject)

theorem storeGhost (horderly : memory.Orderly) {key : Key} {ghost : Ghost}
    (hfiled : Key.ofMetadata ghost.metadata = key) (hidentified : ghost.metadata.uid ≠ none) :
    (memory.storeGhost key ghost).Orderly where
  ghosts_filed {other found} hfound := by
    simp only [Memory.storeGhost, Shelf.find?_insert] at hfound
    split at hfound
    · rename_i hsame
      cases hfound
      exact hfiled.trans hsame.symm
    · exact horderly.ghosts_filed hfound
  ghosts_identified {other found} hfound := by
    simp only [Memory.storeGhost, Shelf.find?_insert] at hfound
    split at hfound
    · cases hfound
      exact hidentified
    · exact horderly.ghosts_identified hfound
  children_filed hobject := horderly.children_filed hobject

theorem storeChild (horderly : memory.Orderly) (kind : ChildKind) {key : Key}
    {object : kind.Object} (hfiled : Key.ofMetadata (kind.metadata object) = key) :
    (memory.storeChild kind key object).Orderly where
  ghosts_filed hghost := horderly.ghosts_filed hghost
  ghosts_identified hghost := horderly.ghosts_identified hghost
  children_filed {other place found} hfound := by
    simp only [Memory.storeChild] at hfound
    by_cases hkind : other = kind
    · subst hkind
      rw [Children.shelf_withShelf_self, Shelf.find?_insert] at hfound
      split at hfound
      · rename_i hsame
        cases hfound
        rw [ChildKind.metadata_withMetadata, ofMetadata_stamp, hfiled, hsame]
      · exact horderly.children_filed hfound
    · rw [Children.shelf_withShelf_of_ne _ hkind] at hfound
      exact horderly.children_filed hfound

/-- Children may be taken away. -/
theorem of_children {children : Children} (horderly : memory.Orderly)
    (hkept : ∀ (kind : ChildKind) (key : Key) (object : kind.Object),
      (children.shelf kind).find? key = some object →
        (memory.children.shelf kind).find? key = some object) :
    ({ memory with children } : Memory).Orderly where
  ghosts_filed hghost := horderly.ghosts_filed hghost
  ghosts_identified hghost := horderly.ghosts_identified hghost
  children_filed {kind key object} hobject :=
    horderly.children_filed (hkept kind key object hobject)

theorem serveStatus (horderly : memory.Orderly) (ghost : Ghost) (status : GhostStatus) :
    (Memory.serveStatus ghost status memory).2.Orderly := by
  unfold Memory.serveStatus
  dsimp only
  cases hstored : memory.ghosts.find? (Key.ofMetadata ghost.metadata) with
  | none => exact horderly
  | some stored =>
    dsimp only
    have hfiled := horderly.ghosts_filed hstored
    have hidentified := horderly.ghosts_identified hstored
    split
    · exact horderly.storeGhost hfiled hidentified
    · exact horderly

theorem serveWrite (horderly : memory.Orderly) (write : Write) :
    (memory.serveWrite write).2.Orderly := by
  cases write with
  | create kind object =>
    unfold Memory.serveWrite
    dsimp only
    cases (memory.children.shelf kind).find? (Key.ofMetadata (kind.metadata object)) with
    | none => exact horderly.storeChild kind rfl
    | some stored => exact horderly.of_stores rfl rfl
  | replace deployment =>
    unfold Memory.serveWrite
    dsimp only
    cases memory.children.deployments.find? (Key.ofMetadata deployment.metadata) with
    | none => exact horderly
    | some stored =>
      dsimp only
      split
      · exact horderly.storeChild .deployment rfl
      · exact horderly
  | remove key =>
    unfold Memory.serveWrite
    dsimp only
    cases memory.children.ingresses.find? key with
    | none => exact horderly
    | some stored =>
      refine horderly.of_children fun kind other object hobject ↦ ?_
      by_cases hkind : kind = .ingress
      · subst hkind
        rw [Children.shelf_withShelf_self, Shelf.find?_erase] at hobject
        split at hobject
        · cases hobject
        · exact hobject
      · rwa [Children.shelf_withShelf_of_ne _ hkind] at hobject

/-- No call disturbs the order, whatever it carries. -/
theorem answer (horderly : memory.Orderly) (request : Call) :
    (memory.answer request).2.Orderly := by
  have hrecorded : (memory.recorded request.name).Orderly := horderly.of_stores rfl rfl
  unfold Memory.answer
  cases memory.faults request.name with
  | some message => exact hrecorded
  | none =>
    cases request with
    | readGhost key => exact hrecorded
    | writeStatus ghost status => exact hrecorded.serveStatus ghost status
    | find kind key => exact hrecorded
    | change write => exact hrecorded.serveWrite write

theorem edit? (horderly : memory.Orderly) (key : Key) (change : GhostSpec → GhostSpec) :
    ((memory.edit? key change).getD memory).Orderly := by
  unfold Memory.edit?
  cases hghost : memory.ghosts.find? key with
  | none => exact horderly
  | some ghost =>
    have hfiled := horderly.ghosts_filed hghost
    have hidentified := horderly.ghosts_identified hghost
    exact horderly.storeGhost hfiled hidentified

theorem delete (horderly : memory.Orderly) (key : Key) : (memory.delete key).Orderly where
  ghosts_filed hghost := horderly.ghosts_filed (find?_of_delete hghost)
  ghosts_identified hghost := horderly.ghosts_identified (find?_of_delete hghost)
  children_filed hobject := horderly.children_filed hobject

theorem collectGarbage (horderly : memory.Orderly) : memory.collectGarbage.Orderly :=
  horderly.of_children fun _ _ _ hobject ↦ find?_collectGarbage hobject

/-- No operation disturbs the order. -/
theorem perform (horderly : memory.Orderly) (operation : Operation) :
    (memory.perform operation).Orderly := by
  cases operation with
  | apply ghost => exact horderly.storeGhost rfl (by simp [admitted])
  | edit key change => exact horderly.edit? key change
  | delete key => exact horderly.delete key
  | collectGarbage => exact horderly.collectGarbage
  | setFault name message => exact horderly.of_stores rfl rfl
  | call request => exact horderly.answer request

end Orderly

/-- Every cluster that can come about is orderly. -/
theorem Reachable.orderly {memory : Memory} (hreachable : memory.Reachable) : memory.Orderly := by
  induction hreachable with
  | empty => exact orderly_empty
  | perform hreachable operation ih => exact ih.perform operation

end Memory

end BlogOperator
