import BlogOperator.Proofs.Convergence
import BlogOperator.Proofs.OwnerCascade

/-!
# Blogs that succeed one another

A namespace has at most one blog at a time (`Memory.OnePerTeam`), but a blog may be deleted and
another one applied, under a new identity (`Traffic.FreshIdentities`), before the garbage of the
first one is collected. Identities then still tell keys apart: no two keys have ever had the same
one (`Traffic.FreshIdentities.key_eq`).

A round that succeeds leaves every wanted child in place. A child that was there keeps its owner,
and one that was not gets the blog for its owner (`Ghost.Leaves.owners`). So a child of a
predecessor stays with the predecessor, and garbage collection takes it away, although the round has
reported that all is ready (`predecessor_keeps_children`). It takes no other child of the blog
(`owners_after_reconcile`).
-/

set_option autoImplicit false

namespace BlogOperator

open BlogOperator.Kubernetes BlogOperator.Time

/-! ### Identities -/

namespace Memory

variable {memory : Memory} {key : Key} {uid : String}

/-- The identity of the blog under a key, if there is one. -/
def uid? (memory : Memory) (key : Key) : Option String :=
  (memory.ghosts.find? key).bind fun ghost ↦ ghost.metadata.uid

theorem uid?_eq_some : memory.uid? key = some uid ↔
    ∃ ghost, memory.ghosts.find? key = some ghost ∧ ghost.metadata.uid = some uid :=
  Option.bind_eq_some_iff

theorem mem_livingGhosts_iff : uid ∈ memory.livingGhosts ↔ ∃ key, memory.uid? key = some uid :=
  mem_livingGhosts.trans (exists_congr fun _ ↦ uid?_eq_some.symm)

/-- There is at most one blog in each namespace. -/
def OnePerTeam (memory : Memory) : Prop :=
  ∀ entry ∈ memory.ghosts.entries, ∀ entry' ∈ memory.ghosts.entries,
    entry.1.namespaceName = entry'.1.namespaceName → entry.1 = entry'.1

instance (memory : Memory) : Decidable memory.OnePerTeam := by
  unfold OnePerTeam
  infer_instance

theorem OnePerTeam.key_eq (hone : memory.OnePerTeam) {other : Key} {ghost ghost' : Ghost}
    (hghost : memory.ghosts.find? key = some ghost)
    (hother : memory.ghosts.find? other = some ghost')
    (hteam : key.namespaceName = other.namespaceName) : key = other :=
  hone (key, ghost) (Shelf.mem_entries_iff.2 hghost) (other, ghost')
    (Shelf.mem_entries_iff.2 hother) hteam

/-- No call changes an identity. -/
theorem uid?_answer (memory : Memory) (request : Call) (key : Key) :
    (memory.answer request).2.uid? key = memory.uid? key := by
  unfold uid?
  rcases memory.ghosts_answer request with hsame | ⟨ghost, status, stored, rfl, -, hstored, hghosts⟩
  · rw [hsame]
  · rw [hghosts, Shelf.find?_insert]
    by_cases hkey : key = Key.ofMetadata ghost.metadata
    · rw [if_pos hkey, hkey, hstored]
      rfl
    · rw [if_neg hkey]

end Memory

/-- The identity with which a blog is stored when it is applied: its own, or one that follows from
its key. -/
def Ghost.identity (ghost : Ghost) : String :=
  let key := Key.ofMetadata ghost.metadata
  ghost.metadata.uid.getD s!"uid-{key.namespaceName}-{key.name}"

/-- Where an identity comes from that is there after an operation: it was there before, or a blog
has been applied with it. -/
theorem Memory.uid?_perform {memory : Memory} {operation : Memory.Operation} {key : Key}
    {uid : String} (huid : (memory.perform operation).uid? key = some uid) :
    memory.uid? key = some uid ∨ ∃ ghost, operation = .apply ghost ∧
      key = Key.ofMetadata ghost.metadata ∧ uid = ghost.identity := by
  cases operation with
  | apply ghost =>
    obtain ⟨after, hafter, hself⟩ := uid?_eq_some.1 huid
    rw [find?_perform_apply] at hafter
    by_cases hkey : key = Key.ofMetadata ghost.metadata
    · rw [if_pos hkey] at hafter
      cases hafter
      exact .inr ⟨ghost, rfl, hkey, (Option.some.inj hself).symm⟩
    · rw [if_neg hkey] at hafter
      exact .inl (uid?_eq_some.2 ⟨after, hafter, hself⟩)
  | edit place change =>
    obtain ⟨after, hafter, hself⟩ := uid?_eq_some.1 huid
    rw [find?_perform_edit] at hafter
    split at hafter
    · obtain ⟨stored, hstored, rfl⟩ := Option.map_eq_some_iff.1 hafter
      exact .inl (uid?_eq_some.2 ⟨stored, hstored, hself⟩)
    · exact .inl (uid?_eq_some.2 ⟨after, hafter, hself⟩)
  | delete place =>
    obtain ⟨after, hafter, hself⟩ := uid?_eq_some.1 huid
    exact .inl (uid?_eq_some.2 ⟨after, find?_of_delete hafter, hself⟩)
  | collectGarbage => exact .inl huid
  | setFault name message => exact .inl huid
  | call request =>
    change (memory.answer request).2.uid? key = some uid at huid
    rw [memory.uid?_answer] at huid
    exact .inl huid

/-- No pass changes an identity. -/
theorem Pass.uid?_run {α : Type} (pass : Pass α) (memory : Memory) (key : Key) :
    (pass.run Memory.environment memory).state.uid? key = memory.uid? key := by
  induction pass generalizing memory with
  | done value => rfl
  | call request next ih =>
    rw [run_call, Run.state_after, ih]
    exact memory.uid?_answer request key
  | announce notice next ih => exact ih memory
  | log line next ih => exact ih memory

/-- The same identities are among the living after a pass. -/
theorem Pass.mem_livingGhosts_run {α : Type} (pass : Pass α) (memory : Memory) {uid : String} :
    uid ∈ (pass.run Memory.environment memory).state.livingGhosts ↔ uid ∈ memory.livingGhosts := by
  rw [Memory.mem_livingGhosts_iff, Memory.mem_livingGhosts_iff]
  exact exists_congr fun key ↦ by rw [Pass.uid?_run]

namespace Traffic

variable {ι α : Type} [DecidableEq ι] {traffic : Traffic ι α} {history : List (Event ι)}
  {event : Event ι} {key : Key} {uid : String}

theorem uid?_undergo (huid : (traffic.undergo event).memory.uid? key = some uid) :
    traffic.memory.uid? key = some uid ∨ ∃ ghost, event = .operation (.apply ghost) ∧
      key = Key.ofMetadata ghost.metadata ∧ uid = ghost.identity := by
  rcases traffic.memory_undergo event with
    hmemory | ⟨operation, rfl, hmemory⟩ | ⟨index, request, -, -, hmemory⟩
  · rw [hmemory] at huid
    exact .inl huid
  · rw [hmemory] at huid
    rcases Memory.uid?_perform huid with hold | ⟨ghost, rfl, happlied⟩
    · exact .inl hold
    · exact .inr ⟨ghost, rfl, happlied⟩
  · rw [hmemory, Memory.uid?_answer] at huid
    exact .inl huid

/-- A blog is applied with the identity that the blog under its key has, or with one that no blog
has had before. -/
def Fresh (traffic : Traffic ι α) (past : List (Event ι)) : Event ι → Prop
  | .operation (.apply ghost) =>
    (traffic.through past).memory.uid? (Key.ofMetadata ghost.metadata) = some ghost.identity ∨
      traffic.Throughout past fun memory ↦ ghost.identity ∉ memory.livingGhosts
  | _ => True

instance (traffic : Traffic ι α) (past : List (Event ι)) :
    (event : Event ι) → Decidable (traffic.Fresh past event)
  | .operation (.apply _) => inferInstanceAs (Decidable (_ ∨ _))
  | .step _ | .operation (.edit _ _) | .operation (.delete _) | .operation .collectGarbage
  | .operation (.setFault _ _) | .operation (.call _) => .isTrue trivial

/-- Every new blog in a history has a new identity. -/
def FreshIdentities (traffic : Traffic ι α) (history : List (Event ι)) : Prop :=
  Wherever history traffic.Fresh

instance (traffic : Traffic ι α) (history : List (Event ι)) :
    Decidable (traffic.FreshIdentities history) :=
  inferInstanceAs (Decidable (Wherever _ _))

namespace FreshIdentities

/-- An identity that is stored at some time in a history has been stored before the last event, or
that event has applied a blog with it, and no blog has had it before. -/
theorem earlier_or_last (hfresh : traffic.FreshIdentities (history ++ [event]))
    {past : List (Event ι)} (hpast : past <+: history ++ [event])
    (huid : (traffic.through past).memory.uid? key = some uid) :
    (∃ earlier, earlier <+: history ∧ (traffic.through earlier).memory.uid? key = some uid) ∨
      ∃ ghost, event = .operation (.apply ghost) ∧ key = Key.ofMetadata ghost.metadata ∧
        traffic.Throughout history fun memory ↦ uid ∉ memory.livingGhosts := by
  rcases List.prefix_concat_iff.1 hpast with rfl | hearlier
  · rw [through_concat] at huid
    rcases uid?_undergo huid with hold | ⟨ghost, rfl, rfl, rfl⟩
    · exact .inl ⟨history, List.prefix_refl history, hold⟩
    · rcases hfresh history _ (List.prefix_refl _) with hsame | hnew
      · exact .inl ⟨history, List.prefix_refl history, hsame⟩
      · exact .inr ⟨ghost, rfl, rfl, hnew⟩
  · exact .inl ⟨past, hearlier, huid⟩

/-- No two keys have ever had the same identity. -/
theorem key_eq (hfresh : traffic.FreshIdentities history)
    (hempty : ∀ key, traffic.memory.uid? key = none) {past past' : List (Event ι)}
    (hpast : past <+: history) (hpast' : past' <+: history) {key' : Key}
    (huid : (traffic.through past).memory.uid? key = some uid)
    (huid' : (traffic.through past').memory.uid? key' = some uid) : key = key' := by
  induction history using List.reverseRecOn generalizing past past' with
  | nil =>
    rw [List.prefix_nil.1 hpast] at huid
    exact absurd huid (by simp [through, hempty])
  | append_singleton history event ih =>
    have hfresh' : traffic.FreshIdentities history := fun past event hpast ↦
      hfresh past event (hpast.trans (List.prefix_append history _))
    rcases hfresh.earlier_or_last hpast huid with
      ⟨earlier, hearlier, hold⟩ | ⟨ghost, rfl, rfl, hnew⟩
    · rcases hfresh.earlier_or_last hpast' huid' with
        ⟨earlier', hearlier', hold'⟩ | ⟨ghost', -, -, hnew'⟩
      · exact ih hfresh' hearlier hearlier' hold hold'
      · exact absurd (Memory.mem_livingGhosts_iff.2 ⟨key, hold⟩) (hnew' earlier hearlier)
    · rcases hfresh.earlier_or_last hpast' huid' with
        ⟨earlier', hearlier', hold'⟩ | ⟨ghost', hevent, rfl, -⟩
      · exact absurd (Memory.mem_livingGhosts_iff.2 ⟨key', hold'⟩) (hnew earlier' hearlier')
      · cases hevent
        rfl

/-- An identity that has been stored in a namespace is among the living just when it is that of the
blog which is stored there now. -/
theorem living_iff (hfresh : traffic.FreshIdentities history)
    (hempty : ∀ key, traffic.memory.uid? key = none)
    (hone : (traffic.through history).memory.OnePerTeam) {past : List (Event ι)}
    (hpast : past <+: history) {place : Key} {other : String}
    (hstored : (traffic.through past).memory.uid? place = some other)
    (hself : (traffic.through history).memory.uid? key = some uid)
    (hteam : place.namespaceName = key.namespaceName) :
    other ∈ (traffic.through history).memory.livingGhosts ↔ other = uid := by
  constructor
  · -- It is still under the key that it had, and there is no room for it but under `key`.
    intro hlives
    obtain ⟨present, hpresent⟩ := Memory.mem_livingGhosts_iff.1 hlives
    obtain rfl : place = present :=
      hfresh.key_eq hempty hpast (List.prefix_refl history) hstored hpresent
    obtain ⟨ghost, hghost, -⟩ := Memory.uid?_eq_some.1 hpresent
    obtain ⟨ghost', hghost', -⟩ := Memory.uid?_eq_some.1 hself
    obtain rfl : place = key := hone.key_eq hghost hghost' hteam
    rw [hpresent] at hself
    exact Option.some.inj hself
  · rintro rfl
    exact Memory.mem_livingGhosts_iff.2 ⟨key, hself⟩

end FreshIdentities

end Traffic

/-! ### Owners -/

/-- A step leaves a wanted child in place, with the owners that it had or, if there was none, with
the blog for its owner. -/
theorem Ghost.Leaves.owners {ghost : Ghost} {kind : ChildKind} {found left : Option kind.Object}
    (hleaves : ghost.Leaves kind found left)
    (hwanted : kind = .ingress → ghost.spec.enableIngress = true) :
    ∃ object, left = some object ∧
      ((∃ before, found = some before ∧
          (kind.metadata object).ownerReferences = (kind.metadata before).ownerReferences) ∨
        (found = none ∧ ∃ owner, ghost.ownerReference? = some owner ∧
          (kind.metadata object).ownerReferences = some [owner])) := by
  cases hleaves with
  | kept hrest =>
    cases hrest with
    | volumeClaim live => exact ⟨live, rfl, .inl ⟨live, rfl, rfl⟩⟩
    | @deployment live hreplicas himage => exact ⟨live, rfl, .inl ⟨live, rfl, rfl⟩⟩
    | service live => exact ⟨live, rfl, .inl ⟨live, rfl, rfl⟩⟩
    | ingress live henabled => exact ⟨live, rfl, .inl ⟨live, rfl, rfl⟩⟩
    | noIngress hunwanted =>
      rw [hwanted rfl] at hunwanted
      cases hunwanted
  | @created kind owner version howner henabled =>
    refine ⟨_, rfl, .inr ⟨rfl, owner, howner, ?_⟩⟩
    rw [ChildKind.metadata_stamped, Ghost.metadata_childOf]
    rfl
  | @replaced live version hdrifted => exact ⟨_, rfl, .inl ⟨live, rfl, rfl⟩⟩
  | removed hunwanted =>
    rw [hwanted rfl] at hunwanted
    cases hunwanted

/-- When nobody but the rounds writes children, a child has one owner, which has been stored in its
namespace at some time. -/
theorem Traffic.owner_stored {ι : Type} [DecidableEq ι] {keys : ι → Key} {times : ι → Instant}
    {history : List (Event ι)} (hothers : ∀ write, .operation (.call (.change write)) ∉ history)
    (hfew : (ofRounds {} keys times).bumps history < UInt64.size) {team : String}
    {kind : ChildKind} {object : kind.Object}
    (hobject : ((ofRounds {} keys times).through history).memory.child? team kind = some object) :
    ∃ owner, (kind.metadata object).ownerReferences = some [owner] ∧
      owner.controller = some true ∧
      ∃ past key, past <+: history ∧ key.namespaceName = team ∧
        ((ofRounds {} keys times).through past).memory.uid? key = some owner.uid := by
  obtain ⟨index, -, hplace, ghost, owner, hbegan, howner, hreferences⟩ :=
    owned_through hothers hfew hobject
  obtain ⟨huid, hcontroller⟩ := Ghost.ownerReference?_eq_some howner
  obtain ⟨past, hpast, hghost⟩ := found_through hbegan.mem (.ghost (keys index) ghost)
  exact ⟨owner, hreferences, hcontroller, past, keys index, hpast,
    (congrArg Key.namespaceName hplace).symm, Memory.uid?_eq_some.2 ⟨ghost, hghost, huid⟩⟩

/-- Assumes: nobody but the rounds writes children, there is at most one blog at a time in each
namespace, every new blog has a new identity, and there are not so many writes that their numbers
run over; all else may happen in any order.

When an undisturbed round for a blog then succeeds, each child that the blog wants is in place, and
has exactly one owner, which manages it. A child that was there keeps its owner, and one that was
not gets the blog for its owner. An owner other than the blog was stored in the namespace before.
Garbage collection takes away the children with such an owner, and leaves those of the blog. -/
theorem owners_after_reconcile {ι : Type} [DecidableEq ι] (keys : ι → Key) (times : ι → Instant)
    {history : List (Traffic.Event ι)}
    (hothers : ∀ write, .operation (.call (.change write)) ∉ history)
    (hone : (Traffic.ofRounds {} keys times).Throughout history Memory.OnePerTeam)
    (hfresh : (Traffic.ofRounds {} keys times).FreshIdentities history)
    (hfew : (Traffic.ofRounds {} keys times).bumps history < UInt64.size) (key : Key)
    {ghost : Ghost}
    (hghost : ((Traffic.ofRounds {} keys times).through history).memory.ghosts.find? key =
      some ghost) (now : Instant) :
    let rounds := Traffic.ofRounds {} keys times
    let memory := (rounds.through history).memory
    let run := (reconcile key now).run Memory.environment memory
    let team := key.namespaceName
    run.result = .ok () → ∃ uid, ghost.metadata.uid = some uid ∧
      ∀ kind : ChildKind, (kind = .ingress → ghost.spec.enableIngress = true) →
        ∃ object owner, run.state.child? team kind = some object ∧
          (kind.metadata object).ownerReferences = some [owner] ∧
          owner.controller = some true ∧
          (memory.child? team kind = none → owner.uid = uid) ∧
          (∀ before, memory.child? team kind = some before →
            (kind.metadata before).ownerReferences = some [owner]) ∧
          (owner.uid ≠ uid → ∃ past place, past <+: history ∧ place.namespaceName = team ∧
            (rounds.through past).memory.uid? place = some owner.uid) ∧
          run.state.collectGarbage.child? team kind =
            if owner.uid = uid then some object else none := by
  intro rounds memory run team hresult
  have horderly : memory.Orderly :=
    ((Traffic.regular_ofRounds .empty keys times).through history).reachable.orderly
  obtain ⟨uid, huid⟩ := Option.ne_none_iff_exists'.1 (horderly.ghosts_identified hghost)
  have hself : memory.uid? key = some uid := Memory.uid?_eq_some.2 ⟨ghost, hghost, huid⟩
  refine ⟨uid, huid, fun kind hwanted ↦ ?_⟩
  have hleaves := horderly.leaves_reconcile hghost now hresult kind
  obtain ⟨object, hobject, howners⟩ := hleaves.owners hwanted
  have hcollected {owner : OwnerReference}
      (hreferences : (kind.metadata object).ownerReferences = some [owner])
      (hliving : owner.uid ∈ memory.livingGhosts ↔ owner.uid = uid) :
      run.state.collectGarbage.child? team kind =
        if owner.uid = uid then some object else none := by
    rw [Memory.child?, Memory.find?_collectGarbage_of_owner hobject hreferences]
    simp only [Pass.mem_livingGhosts_run, hliving]
  rcases howners with ⟨before, hbefore, hsame⟩ | ⟨hnone, owner, howner, hreferences⟩
  · obtain ⟨owner, hreferences, hcontroller, past, place, hpast, hplace, hstored⟩ :=
      Traffic.owner_stored hothers hfew hbefore
    have hliving := hfresh.living_iff (fun _ ↦ rfl) (hone history (List.prefix_refl history))
      hpast hstored hself hplace
    rw [← hsame] at hreferences
    refine ⟨object, owner, hobject, hreferences, hcontroller, fun hnone ↦ ?_, fun other hother ↦ ?_,
      fun _ ↦ ⟨past, place, hpast, hplace, hstored⟩, hcollected hreferences hliving⟩
    · rw [hbefore] at hnone
      cases hnone
    · rw [hbefore] at hother
      cases hother
      rw [← hsame]
      exact hreferences
  · obtain ⟨huid', hcontroller⟩ := Ghost.ownerReference?_eq_some howner
    have hown : owner.uid = uid := Option.some.inj (huid'.symm.trans huid)
    have hliving : owner.uid ∈ memory.livingGhosts :=
      Memory.mem_livingGhosts_iff.2 ⟨key, hown ▸ hself⟩
    refine ⟨object, owner, hobject, hreferences, hcontroller, fun _ ↦ hown, fun before hbefore ↦ ?_,
      fun hother ↦ absurd hown hother, hcollected hreferences (iff_of_true hliving hown)⟩
    rw [hnone] at hbefore
    cases hbefore

/-- A round creates the volume claim of a blog and is dropped. Then the blog is deleted and another
one applied, and a round for that creates the other children. Garbage collection takes the claim
away and leaves the deployment. -/
theorem owners_after_reconcile_marketing :
    let blog (uid : String) : Ghost := {
      metadata := { name := some "blog", namespaceName := some "marketing", uid := some uid }
      spec := ⟨"5", 1, false⟩ }
    let key : Key := ⟨"marketing", "blog"⟩
    let history : List (Traffic.Event Unit) :=
      [.operation (.apply (blog "first"))] ++ List.replicate 4 (.step ()) ++
        [.operation (.delete key), .operation (.apply (blog "second"))]
    let rounds := Traffic.ofRounds {} (fun _ : Unit ↦ key) fun _ ↦ .epoch
    let run := (reconcile key .epoch).run Memory.environment (rounds.through history).memory
    (∀ write, .operation (.call (.change write)) ∉ history) ∧
      rounds.Throughout history Memory.OnePerTeam ∧ rounds.FreshIdentities history ∧
      rounds.bumps history < UInt64.size ∧ run.result = .ok () ∧
      (∃ claim, run.state.child? "marketing" .volumeClaim = some claim ∧
        run.state.collectGarbage.child? "marketing" .volumeClaim = none) ∧
      ∃ deployment, run.state.child? "marketing" .deployment = some deployment ∧
        run.state.collectGarbage.child? "marketing" .deployment = some deployment := by
  intro blog key history rounds run
  have hothers (write : Write) : .operation (.call (.change write)) ∉ history := by
    simp [history]
  have hone : rounds.Throughout history Memory.OnePerTeam := by decide +kernel
  have hfresh : rounds.FreshIdentities history := by decide +kernel
  have hfew : rounds.bumps history < UInt64.size :=
    Nat.lt_of_le_of_lt (rounds.bumps_le_length history) (by decide)
  -- The rounds are worked out only once they are written out.
  dsimp only [run, rounds, history, key, blog] at hothers hone hfresh hfew ⊢
  obtain ⟨uid, huid, hchildren⟩ :=
    owners_after_reconcile (fun _ ↦ _) (fun _ ↦ .epoch) hothers hone hfresh hfew
      ⟨"marketing", "blog"⟩ rfl .epoch rfl
  refine ⟨hothers, hone, hfresh, hfew, rfl, ?_, ?_⟩
  · obtain ⟨claim, owner, hclaim, -, -, -, hkept, -, hcollected⟩ :=
      hchildren .volumeClaim (by simp)
    cases hkept _ rfl
    cases huid
    rw [if_neg (by decide)] at hcollected
    exact ⟨claim, hclaim, hcollected⟩
  · obtain ⟨deployment, owner, hdeployment, -, -, hcreated, -, -, hcollected⟩ :=
      hchildren .deployment (by simp)
    rw [if_pos (hcreated rfl)] at hcollected
    exact ⟨deployment, hdeployment, hcollected⟩

/-- A round has created all children of a blog when it is deleted and another one is applied. A
round for that finds all in place and succeeds. Garbage collection then takes all children away. -/
theorem predecessor_keeps_children :
    let blog (uid : String) : Ghost := {
      metadata := { name := some "blog", namespaceName := some "marketing", uid := some uid }
      spec := ⟨"5", 1, false⟩ }
    let key : Key := ⟨"marketing", "blog"⟩
    let history : List (Traffic.Event Unit) :=
      [.operation (.apply (blog "first"))] ++ List.replicate 16 (.step ()) ++
        [.operation (.delete key), .operation (.apply (blog "second"))]
    let rounds := Traffic.ofRounds {} (fun _ : Unit ↦ key) fun _ ↦ .epoch
    let memory := (rounds.through history).memory
    let run := (reconcile key .epoch).run Memory.environment memory
    (∀ write, .operation (.call (.change write)) ∉ history) ∧
      rounds.Throughout history Memory.OnePerTeam ∧ rounds.FreshIdentities history ∧
      memory.uid? key = some "second" ∧ run.result = .ok () ∧
      ∀ kind : ChildKind, kind ≠ .ingress → ∃ object owner,
        run.state.child? "marketing" kind = some object ∧
          (kind.metadata object).ownerReferences = some [owner] ∧ owner.uid = "first" ∧
          run.state.collectGarbage.child? "marketing" kind = none := by
  intro blog key history rounds memory run
  refine ⟨fun write ↦ by simp [history], by decide +kernel, by decide +kernel, ?_⟩
  -- The rounds are worked out only once they are written out.
  dsimp only [run, memory, rounds, history, key, blog]
  refine ⟨rfl, rfl, fun kind hkind ↦ ?_⟩
  cases kind with
  | volumeClaim => exact ⟨_, _, rfl, rfl, rfl, rfl⟩
  | deployment => exact ⟨_, _, rfl, rfl, rfl, rfl⟩
  | service => exact ⟨_, _, rfl, rfl, rfl, rfl⟩
  | ingress => exact absurd rfl hkind

end BlogOperator
