import BlogOperator.Cluster.Call
import BlogOperator.Cluster.Shelf
import BlogOperator.Reconcile.Pass

/-!
# A cluster in memory

`Memory` is a cluster that keeps blogs and children on shelves. Every write that gets as far as
that gives the object written the next version; a write that refers to an older version of an
object is refused. Chosen sorts of calls can be made to fail, and every call that arrives is on
record. `Memory.answer` answers a call; the other operations are what users and the cluster itself
do.
-/

set_option autoImplicit false

namespace BlogOperator

open BlogOperator.Kubernetes

/-! ### Children -/

/-- The children of all blogs, a shelf for each kind. -/
structure Children where
  volumeClaims : Shelf VolumeClaim := .empty
  deployments : Shelf Deployment := .empty
  services : Shelf Service := .empty
  ingresses : Shelf Ingress := .empty

namespace Children

/-- The shelf of a kind. -/
def shelf (children : Children) : (kind : ChildKind) → Shelf kind.Object
  | .volumeClaim => children.volumeClaims
  | .deployment => children.deployments
  | .service => children.services
  | .ingress => children.ingresses

/-- The children with another shelf for a kind. -/
def withShelf (children : Children) : (kind : ChildKind) → Shelf kind.Object → Children
  | .volumeClaim, shelf => { children with volumeClaims := shelf }
  | .deployment, shelf => { children with deployments := shelf }
  | .service, shelf => { children with services := shelf }
  | .ingress, shelf => { children with ingresses := shelf }

@[simp] theorem shelf_withShelf_self (children : Children) (kind : ChildKind)
    (shelf : Shelf kind.Object) : (children.withShelf kind shelf).shelf kind = shelf := by
  cases kind <;> rfl

theorem shelf_withShelf_of_ne (children : Children) {kind other : ChildKind} (h : other ≠ kind)
    (shelf : Shelf kind.Object) :
    (children.withShelf kind shelf).shelf other = children.shelf other := by
  cases kind <;> cases other <;> first | rfl | exact absurd rfl h

theorem ext {first second : Children} (h : ∀ kind, first.shelf kind = second.shelf kind) :
    first = second := by
  have claims := h .volumeClaim
  have deployments := h .deployment
  have services := h .service
  have ingresses := h .ingress
  cases first
  cases second
  simp only [shelf] at claims deployments services ingresses
  simp [claims, deployments, services, ingresses]

/-- The number of children of all kinds. -/
def size (children : Children) : Nat :=
  ChildKind.all.foldl (fun count kind ↦ count + (children.shelf kind).size) 0

end Children

/-! ### The cluster -/

/-- A cluster in memory. -/
structure Memory where
  ghosts : Shelf Ghost := .empty
  children : Children := {}
  /-- The sorts of calls that fail, and with what message. -/
  faults : CallName → Option String := fun _ ↦ none
  /-- The calls that have arrived, the latest first. -/
  received : List CallName := []
  /-- The number of the last write. -/
  version : UInt64 := 0

namespace Memory

/-- Metadata with a version. -/
def stamp (version : UInt64) (metadata : Metadata) : Metadata :=
  { metadata with resourceVersion := some (toString version.toNat) }

/-- The cluster with one more write counted. -/
def counted (memory : Memory) : Memory :=
  { memory with version := memory.version + 1 }

/-- The cluster with a blog stored under a key, the write being counted. -/
def storeGhost (memory : Memory) (key : Key) (ghost : Ghost) : Memory :=
  let stamped := { ghost with metadata := stamp (memory.version + 1) ghost.metadata }
  { memory.counted with ghosts := memory.ghosts.insert key stamped }

/-- The cluster with a child stored under a key, the write being counted. -/
def storeChild (memory : Memory) (kind : ChildKind) (key : Key) (object : kind.Object) : Memory :=
  let stamped := kind.withMetadata object
    (stamp (memory.version + 1) (kind.metadata object))
  { memory.counted with
    children := memory.children.withShelf kind
      ((memory.children.shelf kind).insert key stamped) }

/-- There is no object under a key. -/
def notFound (key : Key) : Failure := .api s!"{key.text} not found"

/-- There is an object under a key already. -/
def alreadyExists (key : Key) : Failure := .api s!"{key.text} already exists"

/-- The object under a key is of another version. -/
def conflict (key : Key) : Failure := .api s!"conflict: {key.text} has been modified"

/-! ### Answers to calls -/

/-- Writes the status of a blog that is still of the version given. -/
def serveStatus (ghost : Ghost) (status : GhostStatus) (memory : Memory) :
    Except Failure Unit × Memory :=
  let key := Key.ofMetadata ghost.metadata
  match memory.ghosts.find? key with
  | none => (.error (notFound key), memory)
  | some stored =>
    if stored.metadata.resourceVersion = ghost.metadata.resourceVersion then
      (.ok (), memory.storeGhost key { stored with status := some status })
    else (.error (conflict key), memory)

/-- Writes a child. A creation is counted as a write even where it fails because there is such a
child already. -/
def serveWrite (memory : Memory) : Write → Except Failure Unit × Memory
  | .create kind object =>
    let key := Key.ofMetadata (kind.metadata object)
    match (memory.children.shelf kind).find? key with
    | some _ => (.error (alreadyExists key), memory.counted)
    | none => (.ok (), memory.storeChild kind key object)
  | .replace deployment =>
    let key := Key.ofMetadata deployment.metadata
    match memory.children.deployments.find? key with
    | none => (.error (notFound key), memory)
    | some stored =>
      if stored.metadata.resourceVersion = deployment.metadata.resourceVersion then
        (.ok (), memory.storeChild .deployment key deployment)
      else (.error (conflict key), memory)
  | .remove key =>
    match memory.children.ingresses.find? key with
    | none => (.error (notFound key), memory)
    | some _ =>
      (.ok (), { memory with
        children := memory.children.withShelf .ingress (memory.children.ingresses.erase key) })

/-- What a call does when it is not made to fail. -/
def serve : (request : Call) → Memory → request.Reply × Memory
  | .readGhost key, memory => (.ok (memory.ghosts.find? key), memory)
  | .writeStatus ghost status, memory => serveStatus ghost status memory
  | .find kind key, memory => (.ok ((memory.children.shelf kind).find? key), memory)
  | .change write, memory => serveWrite memory write

/-- The cluster with a call put on record. -/
def recorded (memory : Memory) (name : CallName) : Memory :=
  { memory with received := name :: memory.received }

/-- Answers a call: puts it on record, and lets it fail or serves it. -/
def answer (request : Call) (memory : Memory) : request.Reply × Memory :=
  match memory.faults request.name with
  | some message => (.error (.api message), memory.recorded request.name)
  | none => serve request (memory.recorded request.name)

/-- Passes run against a cluster in memory. Notices are not kept. -/
def environment : Environment Memory where
  answer := answer
  publish _ memory := ([], memory)

/-! ### Users and the cluster itself -/

/-- A blog as it is stored when a user applies it: with an identity, and with the status of the
blog it takes the place of. -/
def admitted (memory : Memory) (key : Key) (ghost : Ghost) : Ghost where
  metadata := { ghost.metadata with
    uid := some (ghost.metadata.uid.getD s!"uid-{key.namespaceName}-{key.name}") }
  spec := ghost.spec
  status :=
    match memory.ghosts.find? key with
    | some existing => existing.status
    | none => ghost.status

/-- A user applies a blog. -/
def apply (memory : Memory) (ghost : Ghost) : Memory :=
  let key := Key.ofMetadata ghost.metadata
  memory.storeGhost key (memory.admitted key ghost)

/-- A user edits the specification of a blog; there may be none under the key. -/
def edit? (memory : Memory) (key : Key) (change : GhostSpec → GhostSpec) : Option Memory :=
  (memory.ghosts.find? key).map fun ghost ↦
    memory.storeGhost key { ghost with spec := change ghost.spec }

/-- The status of the blog under a key, without conditions if there is no blog or no status. -/
def status (memory : Memory) (key : Key) : GhostStatus :=
  ((memory.ghosts.find? key).map Ghost.statusOrEmpty).getD {}

/-- A user deletes a blog. -/
def delete (memory : Memory) (key : Key) : Memory :=
  { memory with ghosts := memory.ghosts.erase key }

/-- Whether an object may stay: it has no owners, or one of them is among the living. -/
def mayStay (living : List String) (metadata : Metadata) : Bool :=
  match metadata.ownerReferences with
  | none => true
  | some [] => true
  | some references => references.any fun reference ↦ living.contains reference.uid

/-- The identities of all blogs. -/
def livingGhosts (memory : Memory) : List String :=
  memory.ghosts.entries.filterMap fun entry ↦ entry.2.metadata.uid

/-- The cluster removes the children that have owners none of which is left. -/
def collectGarbage (memory : Memory) : Memory :=
  let stays (kind : ChildKind) : Shelf kind.Object :=
    (memory.children.shelf kind).filter fun _ object ↦
      mayStay memory.livingGhosts (kind.metadata object)
  { memory with
    children := ⟨stays .volumeClaim, stays .deployment, stays .service, stays .ingress⟩ }

/-- Makes a sort of calls fail, or lets it succeed again. -/
def setFault (memory : Memory) (name : CallName) (message : Option String) : Memory :=
  { memory with faults := fun other ↦ if other = name then message else memory.faults other }

/-- The number of calls of a sort that have arrived. -/
def calls (memory : Memory) (name : CallName) : Nat :=
  memory.received.count name

/-- The number of writing calls that have arrived. -/
def writes (memory : Memory) : Nat :=
  memory.received.countP CallName.isWrite

end Memory

end BlogOperator
