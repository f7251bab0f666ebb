import BlogOperator.Proofs.Reachable
import BlogOperator.Proofs.Run
import BlogOperator.Proofs.TeamView

/-!
# Versions

A `Store` is one of the five stores of a cluster, and `Memory.shelf` is its shelf. What a call can
do is said once (`Memory.answers_answer`): it leaves the stores alone, being a lookup or failing, or
it is a write that is accepted, and then it puts an object in place with the next version or takes
one away, in the one entry that is the target of the call (`Call.target?`). What any operation can
do to the stores follows (`Memory.moves_perform`).

As long as the number of writes does not run over, versions are therefore given once. A cluster
`Memory.Vouches` for a copy of an object when the version of the copy has been given already, and
the object under its key, if it is of that version, is the copy itself. Every object that is found
is vouched for in this way (`Memory.Dated`), and a copy stays vouched for whatever is done to the
cluster (`Memory.Vouches.moves`): the object may be changed, removed, and put there anew.
-/

set_option autoImplicit false

namespace BlogOperator

open BlogOperator.Kubernetes

/-! ### Stores -/

/-- The stores of a cluster. -/
inductive Store where
  | ghosts
  | children (kind : ChildKind)
  deriving DecidableEq

namespace Store

/-- The objects in a store. -/
abbrev Object : Store → Type
  | ghosts => Ghost
  | children kind => kind.Object

/-- The metadata of an object. -/
def metadata : (store : Store) → store.Object → Metadata
  | ghosts => Ghost.metadata
  | children kind => kind.metadata

/-- An object as it is stored with a version. -/
def stamped (version : UInt64) : (store : Store) → store.Object → store.Object
  | ghosts, (ghost : Ghost) => { ghost with metadata := Memory.stamp version ghost.metadata }
  | children kind, object => kind.stamped version object

theorem metadata_stamped (store : Store) (version : UInt64) (object : store.Object) :
    store.metadata (store.stamped version object) =
      Memory.stamp version (store.metadata object) := by
  cases store with
  | ghosts => rfl
  | children kind => exact kind.metadata_stamped version object

/-- The version of an object, as it is written. -/
def versionOf (store : Store) (object : store.Object) : Option String :=
  (store.metadata object).resourceVersion

theorem versionOf_stamped (store : Store) (version : UInt64) (object : store.Object) :
    store.versionOf (store.stamped version object) = some (toString version.toNat) := by
  rw [versionOf, metadata_stamped]
  rfl

end Store

/-- The shelf of a store. -/
def Memory.shelf (memory : Memory) : (store : Store) → Shelf store.Object
  | .ghosts => memory.ghosts
  | .children kind => memory.children.shelf kind

/-! ### What an operation can do to the stores -/

/-- An object is put in place with the next version, and the other stores are left alone. -/
structure Memory.Puts (before after : Memory) (store : Store) (key : Key) (object : store.Object) :
    Prop where
  self : after.shelf store =
    (before.shelf store).insert key (store.stamped (before.version + 1) object)
  others : ∀ other, other ≠ store → after.shelf other = before.shelf other
  version : after.version = before.version + 1

/-- The ways in which the stores and the number of writes can change in one go. -/
inductive Memory.Moves (before after : Memory) : Prop
  /-- The stores are left alone, but a write may be counted. -/
  | kept (hshelf : ∀ store, after.shelf store = before.shelf store)
      (hversion : after.version = before.version ∨ after.version = before.version + 1)
  /-- An object is put in place with the next version. -/
  | stored (store : Store) (key : Key) (object : store.Object)
      (hself : after.shelf store =
        (before.shelf store).insert key (store.stamped (before.version + 1) object))
      (hothers : ∀ other, other ≠ store → after.shelf other = before.shelf other)
      (hversion : after.version = before.version + 1)
  /-- Objects are taken away. -/
  | removed
      (hless : ∀ {store key object}, (after.shelf store).find? key = some object →
        (before.shelf store).find? key = some object)
      (hversion : after.version = before.version)

theorem Memory.Puts.moves {before after : Memory} {store : Store} {key : Key}
    {object : store.Object} (hputs : before.Puts after store key object) : before.Moves after :=
  .stored store key object hputs.self hputs.others hputs.version

namespace Memory.Moves

variable {before after : Memory}

/-- At most one write is counted. -/
theorem version (hmoves : before.Moves after) :
    after.version = before.version ∨ after.version = before.version + 1 := by
  cases hmoves with
  | kept hshelf hversion => exact hversion
  | stored store key object hself hothers hversion => exact .inr hversion
  | removed hless hversion => exact .inl hversion

/-- What is found afterwards was there before, or it has been given the next version. -/
theorem find? (hmoves : before.Moves after) {store : Store} {key : Key} {object : store.Object}
    (hfound : (after.shelf store).find? key = some object) :
    (before.shelf store).find? key = some object ∨
      (after.version = before.version + 1 ∧
        store.versionOf object = some (toString after.version.toNat)) := by
  cases hmoves with
  | kept hshelf hversion => exact .inl (hshelf store ▸ hfound)
  | stored other place new hself hothers hversion =>
    by_cases hstore : store = other
    · subst hstore
      rw [hself, Shelf.find?_insert] at hfound
      split at hfound
      · cases hfound
        rw [hversion]
        exact .inr ⟨rfl, store.versionOf_stamped _ new⟩
      · exact .inl hfound
    · exact .inl (hothers store hstore ▸ hfound)
  | removed hless hversion => exact .inl (hless hfound)

end Memory.Moves

/-! ### What a call can do to the stores -/

/-- The entry that a call writes: its store and its key. Lookups write none. -/
def Call.target? : Call → Option (Store × Key)
  | .readGhost _ => none
  | .writeStatus ghost _ => some (.ghosts, Key.ofMetadata ghost.metadata)
  | .find _ _ => none
  | .change (.create kind object) => some (.children kind, Key.ofMetadata (kind.metadata object))
  | .change (.replace deployment) =>
    some (.children .deployment, Key.ofMetadata deployment.metadata)
  | .change (.remove key) => some (.children .ingress, key)

theorem Call.isSome_target? (request : Call) :
    request.target?.isSome = request.name.isWrite := by
  cases request with
  | readGhost key => rfl
  | writeStatus ghost status => rfl
  | find kind key => rfl
  | change write => cases write <;> rfl

/-- What comes of a call: a reply, and another cluster. -/
inductive Memory.Answers (before : Memory) (request : Call) (reply : request.Reply)
    (after : Memory) : Prop
  /-- The stores are left alone by lookups and by calls that fail, but a write may be counted. -/
  | kept (hreply : request.target? = none ∨ ∃ failure, reply = .error failure)
      (hshelf : ∀ store, after.shelf store = before.shelf store)
      (hversion : after.version = before.version ∨ after.version = before.version + 1)
  /-- An object is put in place, of none if the call is a creation and of another one if not. -/
  | stored {store : Store} {key : Key} {object : store.Object}
      (htarget : request.target? = some (store, key)) (hreply : ∃ answer, reply = .ok answer)
      (hwrite : request.name ≠ .remove)
      (hthere : (before.shelf store).find? key = none ↔ ∃ kind, request.name = .create kind)
      (hputs : before.Puts after store key object)
  /-- An object that is there is taken away. -/
  | erased {store : Store} {key : Key} {object : store.Object}
      (htarget : request.target? = some (store, key)) (hreply : ∃ answer, reply = .ok answer)
      (hremove : request.name = .remove)
      (hthere : (before.shelf store).find? key = some object)
      (hself : after.shelf store = (before.shelf store).erase key)
      (hothers : ∀ other, other ≠ store → after.shelf other = before.shelf other)
      (hversion : after.version = before.version)

namespace Memory

variable (memory : Memory)

theorem moves_self : memory.Moves memory := .kept (fun _ ↦ rfl) (.inl rfl)

theorem puts_storeGhost (key : Key) (ghost : Ghost) :
    memory.Puts (memory.storeGhost key ghost) .ghosts key ghost where
  self := rfl
  others other hother := by
    cases other with
    | ghosts => exact absurd rfl hother
    | children kind => rfl
  version := rfl

theorem puts_storeChild (kind : ChildKind) (key : Key) (object : kind.Object) :
    memory.Puts (memory.storeChild kind key object) (.children kind) key object where
  self := Children.shelf_withShelf_self _ kind _
  others other hother := by
    cases other with
    | ghosts => rfl
    | children other =>
      exact Children.shelf_withShelf_of_ne _ (fun hkind ↦ hother (congrArg Store.children hkind)) _
  version := rfl

/-- Children are taken away. -/
theorem moves_children {children : Children}
    (hless : ∀ {kind : ChildKind} {key : Key} {object : kind.Object},
      (children.shelf kind).find? key = some object →
        (memory.children.shelf kind).find? key = some object) :
    memory.Moves { memory with children } := by
  refine .removed (fun {store key object} hfound ↦ ?_) rfl
  cases store with
  | ghosts => exact hfound
  | children kind => exact hless hfound

theorem answers_serveStatus (ghost : Ghost) (status : GhostStatus) :
    memory.Answers (.writeStatus ghost status) (serveStatus ghost status memory).1
      (serveStatus ghost status memory).2 := by
  unfold serveStatus
  dsimp only
  cases hthere : memory.ghosts.find? (Key.ofMetadata ghost.metadata) with
  | none => exact .kept (.inr ⟨_, rfl⟩) (fun _ ↦ rfl) (.inl rfl)
  | some stored =>
    dsimp only
    split
    · have hfound : memory.ghosts.find? (Key.ofMetadata ghost.metadata) ≠ none :=
        Option.ne_none_iff_exists'.2 ⟨stored, hthere⟩
      exact .stored rfl ⟨_, rfl⟩ nofun (iff_of_false hfound nofun) (memory.puts_storeGhost _ _)
    · exact .kept (.inr ⟨_, rfl⟩) (fun _ ↦ rfl) (.inl rfl)

theorem answers_serveWrite (write : Write) :
    memory.Answers (.change write) (memory.serveWrite write).1 (memory.serveWrite write).2 := by
  cases write with
  | create kind object =>
    unfold serveWrite
    dsimp only
    cases hthere : (memory.children.shelf kind).find? (Key.ofMetadata (kind.metadata object)) with
    | none =>
      exact .stored rfl ⟨_, rfl⟩ nofun (iff_of_true hthere ⟨kind, rfl⟩)
        (memory.puts_storeChild kind _ object)
    | some stored => exact .kept (.inr ⟨_, rfl⟩) (fun _ ↦ rfl) (.inr rfl)
  | replace deployment =>
    unfold serveWrite
    dsimp only
    cases hthere : memory.children.deployments.find? (Key.ofMetadata deployment.metadata) with
    | none => exact .kept (.inr ⟨_, rfl⟩) (fun _ ↦ rfl) (.inl rfl)
    | some stored =>
      dsimp only
      split
      · have hfound :
            memory.children.deployments.find? (Key.ofMetadata deployment.metadata) ≠ none :=
          Option.ne_none_iff_exists'.2 ⟨stored, hthere⟩
        exact .stored rfl ⟨_, rfl⟩ nofun (iff_of_false hfound nofun)
          (memory.puts_storeChild .deployment _ deployment)
      · exact .kept (.inr ⟨_, rfl⟩) (fun _ ↦ rfl) (.inl rfl)
  | remove key =>
    unfold serveWrite
    dsimp only
    cases hthere : memory.children.ingresses.find? key with
    | none => exact .kept (.inr ⟨_, rfl⟩) (fun _ ↦ rfl) (.inl rfl)
    | some stored =>
      refine .erased rfl ⟨_, rfl⟩ rfl hthere rfl (fun other hother ↦ ?_) rfl
      cases other with
      | ghosts => rfl
      | children kind =>
        exact Children.shelf_withShelf_of_ne _
          (fun hkind ↦ hother (congrArg Store.children hkind)) _

/-- Whether a call has been put on record makes no difference to what comes of it. -/
theorem Answers.of_recorded {name : CallName} {request : Call} {reply : request.Reply}
    {after : Memory} (hanswers : (memory.recorded name).Answers request reply after) :
    memory.Answers request reply after := by
  cases hanswers with
  | kept hreply hshelf hversion => exact .kept hreply hshelf hversion
  | stored htarget hreply hwrite hthere hputs =>
    exact .stored htarget hreply hwrite hthere ⟨hputs.self, hputs.others, hputs.version⟩
  | erased htarget hreply hremove hthere hself hothers hversion =>
    exact .erased htarget hreply hremove hthere hself hothers hversion

/-- What can come of a call. -/
theorem answers_answer (request : Call) :
    memory.Answers request (memory.answer request).1 (memory.answer request).2 := by
  unfold answer
  cases memory.faults request.name with
  | some message => exact .kept (.inr ⟨_, rfl⟩) (fun _ ↦ rfl) (.inl rfl)
  | none =>
    cases request with
    | readGhost key => exact .kept (.inl rfl) (fun _ ↦ rfl) (.inl rfl)
    | writeStatus ghost status => exact .of_recorded _ (answers_serveStatus _ ghost status)
    | find kind key => exact .kept (.inl rfl) (fun _ ↦ rfl) (.inl rfl)
    | change write => exact .of_recorded _ (answers_serveWrite _ write)

/-- What a call can do to the stores. -/
theorem moves_answer (request : Call) : memory.Moves (memory.answer request).2 := by
  cases memory.answers_answer request with
  | kept hreply hshelf hversion => exact .kept hshelf hversion
  | stored htarget hreply hwrite hthere hputs => exact hputs.moves
  | @erased home spot _ htarget hreply hremove hthere hself hothers hversion =>
    refine .removed (fun {store place object} hfound ↦ ?_) hversion
    by_cases hstore : store = home
    · subst hstore
      rw [hself, Shelf.find?_erase] at hfound
      split at hfound
      · cases hfound
      · exact hfound
    · rwa [hothers store hstore] at hfound

/-- A store that is not the target of a call is left alone. -/
theorem shelf_answer_of_ne {request : Call} (store : Store)
    (hother : ∀ home key, request.target? = some (home, key) → store ≠ home) :
    (memory.answer request).2.shelf store = memory.shelf store := by
  cases memory.answers_answer request with
  | kept hreply hshelf hversion => exact hshelf store
  | stored htarget hreply hwrite hthere hputs => exact hputs.others store (hother _ _ htarget)
  | erased htarget hreply hremove hthere hself hothers hversion =>
    exact hothers store (hother _ _ htarget)

/-- Calls other than writes of children leave the children alone. -/
theorem children_answer {request : Call} (hother : ∀ write, request ≠ .change write) :
    (memory.answer request).2.children = memory.children := by
  refine Children.ext fun kind ↦ memory.shelf_answer_of_ne (.children kind) ?_
  intro home key htarget
  cases request with
  | readGhost place => cases htarget
  | writeStatus ghost status =>
    cases htarget
    exact nofun
  | find kind place => cases htarget
  | change write => exact absurd rfl (hother write)

/-- What an operation can do to the stores. -/
theorem moves_perform (operation : Operation) : memory.Moves (memory.perform operation) := by
  cases operation with
  | apply ghost => exact (memory.puts_storeGhost _ _).moves
  | edit key change =>
    change memory.Moves ((memory.edit? key change).getD memory)
    unfold edit?
    cases memory.ghosts.find? key with
    | none => exact memory.moves_self
    | some ghost => exact (memory.puts_storeGhost key _).moves
  | delete key =>
    refine .removed (fun {store place object} hfound ↦ ?_) rfl
    cases store with
    | ghosts => exact find?_of_delete hfound
    | children kind => exact hfound
  | collectGarbage => exact memory.moves_children find?_collectGarbage
  | setFault name message => exact .kept (fun _ ↦ rfl) (.inl rfl)
  | call request => exact memory.moves_answer request

end Memory

/-! ### What calls find -/

/-- An exchange in which an object was found in a store. -/
inductive Exchange.Finds : Exchange → (store : Store) → Key → store.Object → Prop
  | ghost (key : Key) (ghost : Ghost) :
      Finds ⟨.readGhost key, .ok (some ghost)⟩ .ghosts key ghost
  | child (kind : ChildKind) (key : Key) (object : kind.Object) :
      Finds ⟨.find kind key, .ok (some object)⟩ (.children kind) key object

/-- What a call finds is there. -/
theorem Exchange.Finds.find? {exchange : Exchange} {store : Store} {key : Key}
    {object : store.Object} (hfinds : exchange.Finds store key object) {memory : Memory}
    (hreply : (memory.answer exchange.request).1 = exchange.reply) :
    (memory.shelf store).find? key = some object := by
  unfold Memory.answer at hreply
  cases hfinds with
  | ghost key ghost =>
    cases hfault : memory.faults .readGhost with
    | some message => simp [Call.name, hfault] at hreply
    | none =>
      simp only [Call.name, hfault] at hreply
      exact Except.ok.inj hreply
  | child kind key object =>
    cases hfault : memory.faults (.find kind) with
    | some message => simp [Call.name, hfault] at hreply
    | none =>
      simp only [Call.name, hfault] at hreply
      exact Except.ok.inj hreply

/-! ### Copies -/

theorem eq_of_toString_eq {first second : Nat} (htext : toString first = toString second) :
    first = second := by
  have hdigits := congrArg String.toList htext
  rw [Nat.toString_eq_repr, Nat.toString_eq_repr, Nat.toList_repr, Nat.toList_repr] at hdigits
  have hvalue := congrArg (Nat.ofDigitChars 10 · 0) hdigits
  simpa only [Nat.ofDigitChars_ten_toDigits] using hvalue

/-- A cluster vouches for a copy of an object: the version of the copy has been given already, and
the object under the key is the copy itself if it is of that version. -/
structure Memory.Vouches (memory : Memory) (store : Store) (key : Key) (copy : store.Object) :
    Prop where
  given : ∃ number ≤ memory.version.toNat, store.versionOf copy = some (toString number)
  same : ∀ {stored}, (memory.shelf store).find? key = some stored →
    store.versionOf stored = store.versionOf copy → stored = copy

/-- A cluster in which everything that is found is vouched for: each object has a version that has
been given. -/
def Memory.Dated (memory : Memory) : Prop :=
  ∀ {store key object}, (memory.shelf store).find? key = some object →
    memory.Vouches store key object

theorem Memory.dated_empty : Memory.Dated {} := by
  intro store key object hfound
  cases store with
  | ghosts => cases hfound
  | children kind => cases kind <;> cases hfound

/-- Without running over, a counted write makes the next version larger. -/
theorem Memory.version_lt {before after : Memory}
    (hrising : before.version.toNat ≤ after.version.toNat)
    (hversion : after.version = before.version + 1) :
    before.version.toNat < after.version.toNat := by
  refine Nat.lt_of_le_of_ne hrising fun hsame ↦ ?_
  have hnumbers : before.version = before.version + 1 :=
    (UInt64.toNat_inj.1 hsame).trans hversion
  simp at hnumbers

section Moves

variable {before after : Memory} (hmoves : before.Moves after)
  (hrising : before.version.toNat ≤ after.version.toNat)

include hmoves hrising

/-- A copy stays vouched for. -/
theorem Memory.Vouches.moves {store : Store} {key : Key} {copy : store.Object}
    (hvouches : before.Vouches store key copy) : after.Vouches store key copy where
  given := by
    obtain ⟨number, hnumber, hcopy⟩ := hvouches.given
    exact ⟨number, Nat.le_trans hnumber hrising, hcopy⟩
  same {stored} hstored hversions := by
    rcases hmoves.find? hstored with hbefore | ⟨hversion, hnew⟩
    · exact hvouches.same hbefore hversions
    · -- A new object has a version that the copy cannot have yet.
      obtain ⟨number, hnumber, hcopy⟩ := hvouches.given
      rw [hnew, hcopy] at hversions
      have hequal := eq_of_toString_eq (Option.some.inj hversions)
      have hless := version_lt hrising hversion
      omega

theorem Memory.Dated.moves (hdated : before.Dated) : after.Dated := by
  intro store key object hfound
  rcases hmoves.find? hfound with hbefore | ⟨-, hnew⟩
  · exact (hdated hbefore).moves hmoves hrising
  · refine ⟨⟨_, Nat.le_refl _, hnew⟩, fun hstored _ ↦ ?_⟩
    rw [hfound] at hstored
    exact (Option.some.inj hstored).symm

end Moves

end BlogOperator
