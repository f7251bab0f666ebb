import BlogOperator.Proofs.LostUpdates

/-!
# The integrity of a cluster

A call that fails leaves the stores as they are (`Memory.Answers.shelf_of_error`), and a write that
is accepted changes its target and nothing else (`Memory.Answers.find?_of_ok`).

As long as the number of writes does not run over, no two objects in the stores are of the same
version (`Memory.Distinct`). One operation keeps this because the next version is larger than that
of every object stored (`Memory.Distinct.moves`), and so does a history
(`Traffic.distinct_through`). With the order of the stores, which nothing disturbs, this makes up
`integrity_kept`.
-/

set_option autoImplicit false

namespace BlogOperator

open BlogOperator.Kubernetes BlogOperator.Time

/-! ### What a call does -/

namespace Memory.Answers

variable {before after : Memory} {request : Call} {reply : request.Reply}
  (hanswers : before.Answers request reply after)

include hanswers

theorem shelf_of_lookup (hlookup : request.target? = none) (store : Store) :
    after.shelf store = before.shelf store := by
  cases hanswers with
  | kept hreply hshelf hversion => exact hshelf store
  | stored htarget hreply hwrite hthere hputs => cases hlookup.symm.trans htarget
  | erased htarget hreply hremove hthere hself hothers hversion => cases hlookup.symm.trans htarget

theorem shelf_of_error {failure : Failure} (hfailed : reply = .error failure) (store : Store) :
    after.shelf store = before.shelf store := by
  subst hfailed
  cases hanswers with
  | kept hreply hshelf hversion => exact hshelf store
  | stored htarget hreply hwrite hthere hputs =>
    obtain ⟨answer, ⟨⟩⟩ := hreply
  | erased htarget hreply hremove hthere hself hothers hversion =>
    obtain ⟨answer, ⟨⟩⟩ := hreply

/-- A write that is accepted writes its target, and nothing else: a creation where there was
nothing, a removal so that nothing is there any more. -/
theorem find?_of_ok {store : Store} {key : Key} (htarget : request.target? = some (store, key))
    {answer : request.Answer} (haccepted : reply = .ok answer) :
    (∀ other place, other ≠ store ∨ place ≠ key →
      (after.shelf other).find? place = (before.shelf other).find? place) ∧
    ((before.shelf store).find? key = none ↔ ∃ kind, request.name = .create kind) ∧
    ((request.name ≠ .remove ∧ after.version = before.version + 1 ∧
        ∃ object, (after.shelf store).find? key =
          some (store.stamped (before.version + 1) object)) ∨
      request.name = .remove ∧ (after.shelf store).find? key = none) := by
  subst haccepted
  cases hanswers with
  | kept hreply hshelf hversion =>
    rcases hreply with hlookup | ⟨failure, ⟨⟩⟩
    cases hlookup.symm.trans htarget
  | @stored _ _ object htarget' hreply hwrite hthere hputs =>
    cases htarget.symm.trans htarget'
    refine ⟨fun other place hother ↦ ?_, hthere, .inl ⟨hwrite, hputs.version, object, ?_⟩⟩
    · by_cases hstore : other = store
      · subst hstore
        rw [hputs.self, Shelf.find?_insert_of_ne _ (hother.resolve_left (absurd rfl))]
      · rw [hputs.others other hstore]
    · rw [hputs.self, Shelf.find?_insert_self]
  | erased htarget' hreply hremove hthere hself hothers hversion =>
    cases htarget.symm.trans htarget'
    refine ⟨fun other place hother ↦ ?_, iff_of_false ?_ ?_, .inr ⟨hremove, ?_⟩⟩
    · by_cases hstore : other = store
      · subst hstore
        rw [hself, Shelf.find?_erase_of_ne _ (hother.resolve_left (absurd rfl))]
      · rw [hothers other hstore]
    · rw [hthere]
      exact Option.some_ne_none _
    · rw [hremove]
      exact nofun
    · rw [hself, Shelf.find?_erase_self]

end Memory.Answers

/-! ### Versions are not shared -/

/-- No two objects in the stores are of the same version. -/
def Memory.Distinct (memory : Memory) : Prop :=
  ∀ ⦃store key object other place twin⦄, (memory.shelf store).find? key = some object →
    (memory.shelf other).find? place = some twin →
      store.versionOf object = other.versionOf twin → store = other ∧ key = place

theorem Memory.distinct_empty : Memory.Distinct {} := by
  intro store key object other place twin hobject
  cases store with
  | ghosts => cases hobject
  | children kind => cases kind <;> cases hobject

/-- An operation that does not let the number of writes run over gives no version twice. -/
theorem Memory.Distinct.moves {before after : Memory} (hdistinct : before.Distinct)
    (hmoves : before.Moves after) (hrising : before.version.toNat ≤ after.version.toNat)
    (hdated : before.Dated) : after.Distinct := by
  intro store key object other place twin hobject htwin hsame
  cases hmoves with
  | kept hshelf hversion =>
    rw [hshelf] at hobject htwin
    exact hdistinct hobject htwin hsame
  | removed hless hversion => exact hdistinct (hless hobject) (hless htwin) hsame
  | stored home spot new hself hothers hversion =>
    have hfound {store : Store} {key : Key} {object : store.Object}
        (hobject : (after.shelf store).find? key = some object) :
        (store = home ∧ key = spot ∧
            store.versionOf object = some (toString after.version.toNat)) ∨
          (before.shelf store).find? key = some object := by
      by_cases hstore : store = home
      · subst hstore
        rw [hself, Shelf.find?_insert] at hobject
        split at hobject
        · rename_i hkey
          cases hobject
          rw [hversion]
          exact .inl ⟨rfl, hkey, store.versionOf_stamped _ new⟩
        · exact .inr hobject
      · exact .inr (hothers store hstore ▸ hobject)
    -- The new object is of no version that has been given before.
    have hold {store : Store} {key : Key} {object : store.Object}
        (hobject : (before.shelf store).find? key = some object) :
        store.versionOf object ≠ some (toString after.version.toNat) := by
      obtain ⟨number, hnumber, hgiven⟩ := (hdated hobject).given
      rw [hgiven]
      intro hnew
      have hequal := eq_of_toString_eq (Option.some.inj hnew)
      have hless := version_lt hrising hversion
      omega
    rcases hfound hobject with ⟨rfl, rfl, hnew⟩ | hbefore
    · rcases hfound htwin with ⟨rfl, rfl, -⟩ | hbefore'
      · exact ⟨rfl, rfl⟩
      · exact absurd (hsame.symm.trans hnew) (hold hbefore')
    · rcases hfound htwin with ⟨rfl, rfl, hnew⟩ | hbefore'
      · exact absurd (hsame.trans hnew) (hold hbefore)
      · exact hdistinct hbefore hbefore' hsame

namespace Traffic

variable {ι α : Type} [DecidableEq ι]

/-- Versions are not shared whatever is done to the cluster, while the number of writes does not run
over. -/
theorem distinct_through {traffic : Traffic ι α} {history : List (Event ι)}
    (hdated : traffic.memory.Dated) (hdistinct : traffic.memory.Distinct)
    (hfew : traffic.memory.version.toNat + traffic.bumps history < UInt64.size) :
    (traffic.through history).memory.Distinct := by
  induction history generalizing traffic with
  | nil => exact hdistinct
  | cons event history ih =>
    obtain ⟨hrising, hrest⟩ := version_undergo hfew
    have hmoves := traffic.moves_undergo event
    exact ih (Memory.Dated.moves hmoves hrising hdated) (hdistinct.moves hmoves hrising hdated)
      hrest

/-- An event that counts a write makes the history longer by one write. -/
theorem bumps_concat {traffic : Traffic ι α} {history : List (Event ι)} {event : Event ι}
    (hversion : ((traffic.through history).undergo event).memory.version =
      (traffic.through history).memory.version + 1) :
    traffic.bumps (history ++ [event]) = traffic.bumps history + 1 := by
  have hchanged : ((traffic.through history).undergo event).memory.version ≠
      (traffic.through history).memory.version := by
    rw [hversion]
    simp
  rw [bumps_append, bumps, bumps, if_neg hchanged]

section OfRounds

variable {keys : ι → Key} {times : ι → Instant} {history : List (Event ι)}
  (hfew : (ofRounds {} keys times).bumps history < UInt64.size)

include hfew

/-- The number of the last write is the number of writes, from an empty cluster on. -/
theorem toNat_version_ofRounds :
    ((ofRounds {} keys times).through history).memory.version.toNat =
      (ofRounds {} keys times).bumps history := by
  rw [toNat_version_through (by rwa [toNat_version_add]), toNat_version_add]

/-- Everything that has ever been stored is of a version that has been given by then. -/
theorem exists_number {past : List (Event ι)} (hpast : past <+: history) {store : Store} {key : Key}
    {object : store.Object}
    (hfound : (((ofRounds {} keys times).through past).memory.shelf store).find? key =
      some object) :
    ∃ number ≤ (ofRounds {} keys times).bumps history,
      store.versionOf object = some (toString number) := by
  have hfewer := (ofRounds {} keys times).bumps_mono hpast
  have hfew' := Nat.lt_of_le_of_lt hfewer hfew
  obtain ⟨number, hnumber, hgiven⟩ := ((Vouched.ofRounds hfew').dated hfound).given
  rw [toNat_version_ofRounds hfew'] at hnumber
  exact ⟨number, Nat.le_trans hnumber hfewer, hgiven⟩

theorem distinct_ofRounds : ((ofRounds {} keys times).through history).memory.Distinct := by
  refine distinct_through Memory.dated_empty Memory.distinct_empty ?_
  rwa [toNat_version_add]

end OfRounds

/-- A write that is accepted changes its target, and nothing else, and what it writes is of the next
version. -/
theorem target_of_ok {keys : ι → Key} {times : ι → Instant} {history : List (Event ι)}
    {request : Call} {store : Store} {key : Key} {answer : request.Answer}
    (hfew : (ofRounds {} keys times).bumps (history ++ [.operation (.call request)]) <
      UInt64.size)
    (htarget : request.target? = some (store, key)) :
    let memory := ((ofRounds {} keys times).through history).memory
    let after := (memory.answer request).2
    (memory.answer request).1 = .ok answer →
      (∀ other place, other ≠ store ∨ place ≠ key →
        (after.shelf other).find? place = (memory.shelf other).find? place) ∧
      (after.shelf store).find? key ≠ (memory.shelf store).find? key ∧
      ((memory.shelf store).find? key = none ↔ ∃ kind, request.name = .create kind) ∧
      ((after.shelf store).find? key = none ↔ request.name = .remove) ∧
      ∀ written, (after.shelf store).find? key = some written →
        store.versionOf written =
          some (toString ((ofRounds {} keys times).bumps history + 1)) := by
  intro memory after haccepted
  have hpast : history <+: history ++ [.operation (.call request)] := List.prefix_append _ _
  have hfew' := Nat.lt_of_le_of_lt ((ofRounds {} keys times).bumps_mono hpast) hfew
  obtain ⟨hothers, hcreated, ⟨hwrite, hversion, object, hobject⟩ | ⟨hremove, hgone⟩⟩ :=
    (memory.answers_answer request).find?_of_ok htarget haccepted
  · have hcounted : (ofRounds {} keys times).bumps (history ++ [.operation (.call request)]) =
        (ofRounds {} keys times).bumps history + 1 := bumps_concat hversion
    have hnumber : (memory.version + 1).toNat = (ofRounds {} keys times).bumps history + 1 := by
      rw [← hcounted, ← toNat_version_ofRounds hfew, through_concat]
      exact congrArg UInt64.toNat hversion.symm
    have hwritten := store.versionOf_stamped (memory.version + 1) object
    rw [hnumber] at hwritten
    refine ⟨hothers, fun hsame ↦ ?_, hcreated, iff_of_false ?_ hwrite, fun written hfound ↦ ?_⟩
    · obtain ⟨number, hgiven, hold⟩ := exists_number hfew' (List.prefix_refl _)
        (hsame.symm.trans hobject)
      rw [hwritten] at hold
      have hequal := eq_of_toString_eq (Option.some.inj hold)
      omega
    · rw [hobject]
      exact Option.some_ne_none _
    · rw [hobject] at hfound
      rwa [← Option.some.inj hfound]
  · refine ⟨hothers, fun hsame ↦ ?_, hcreated, iff_of_true hgone hremove, fun written hfound ↦ ?_⟩
    · obtain ⟨kind, hcreate⟩ := hcreated.1 (hsame.symm.trans hgone)
      cases hremove.symm.trans hcreate
    · cases hgone.symm.trans hfound

end Traffic

/-- Whatever is done to a cluster, from an empty one on and with rounds taking their turns in
between, as long as the number of writes does not run over: every object is under the key that its
own metadata give, every blog has an identity, and no two objects are of the same version. Every
call that fails leaves the stores as they are, and so does every lookup. A write that is accepted
changes the entry that is its target, and no other one: a creation adds it, a removal removes it,
and any other write has another object in it. What is written is of the next version, which is
larger than those of all objects that have ever been stored. -/
theorem integrity_kept {ι : Type} [DecidableEq ι] (keys : ι → Key) (times : ι → Instant)
    {history : List (Traffic.Event ι)}
    (hfew : (Traffic.ofRounds {} keys times).bumps history < UInt64.size) :
    let rounds := Traffic.ofRounds {} keys times
    let memory := (rounds.through history).memory
    memory.Orderly ∧ memory.Distinct ∧
      ∀ request : Call,
        let reply := (memory.answer request).1
        let after := (memory.answer request).2
        (request.name.isWrite = false → ∀ store, after.shelf store = memory.shelf store) ∧
        (∀ failure, reply = .error failure → ∀ store, after.shelf store = memory.shelf store) ∧
        ∀ answer, request.name.isWrite = true → reply = .ok answer →
          rounds.bumps (history ++ [.operation (.call request)]) < UInt64.size →
          ∃ store key, request.target? = some (store, key) ∧
            (∀ other place, other ≠ store ∨ place ≠ key →
              (after.shelf other).find? place = (memory.shelf other).find? place) ∧
            (after.shelf store).find? key ≠ (memory.shelf store).find? key ∧
            ((memory.shelf store).find? key = none ↔ ∃ kind, request.name = .create kind) ∧
            ((after.shelf store).find? key = none ↔ request.name = .remove) ∧
            ∀ written, (after.shelf store).find? key = some written →
              store.versionOf written = some (toString (rounds.bumps history + 1)) ∧
                ∀ past, past <+: history → ∀ other place object,
                  ((rounds.through past).memory.shelf other).find? place = some object →
                    ∃ number ≤ rounds.bumps history,
                      other.versionOf object = some (toString number) := by
  intro rounds memory
  have hregular := (Traffic.regular_ofRounds .empty keys times).through history
  refine ⟨hregular.reachable.orderly, Traffic.distinct_ofRounds hfew, fun request ↦ ?_⟩
  have hanswers := memory.answers_answer request
  have htarget := request.isSome_target?
  refine ⟨fun hlookup ↦ ?_, fun failure hfailed ↦ hanswers.shelf_of_error hfailed, ?_⟩
  · rw [hlookup, Option.isSome_eq_false_iff, Option.isNone_iff_eq_none] at htarget
    exact hanswers.shelf_of_lookup htarget
  · intro answer hwrite haccepted hfew'
    rw [hwrite, Option.isSome_iff_exists] at htarget
    obtain ⟨⟨store, key⟩, hstore⟩ := htarget
    obtain ⟨hothers, hchanged, hcreated, hremoved, hversion⟩ :=
      Traffic.target_of_ok hfew' hstore haccepted
    exact ⟨store, key, hstore, hothers, hchanged, hcreated, hremoved, fun written hwritten ↦
      ⟨hversion written hwritten, fun past hpast other place object hfound ↦
        Traffic.exists_number hfew hpast hfound⟩⟩

/-- A service is created twice. The second time this is refused but counted, so that the status
written next is of the fourth version. An ingress that is not there cannot be removed. -/
theorem integrity_kept_marketing :
    let ghost : Ghost := {
      metadata := { name := some "blog", namespaceName := some "marketing" }
      spec := ⟨"5", 1, true⟩ }
    let service : Service := {
      metadata := { name := some "blog", namespaceName := some "marketing" } }
    let key : Key := ⟨"marketing", "blog"⟩
    let create : Call := .change (.create .service service)
    let history : List (Traffic.Event Bool) :=
      [.operation (.apply ghost), .operation (.call create), .operation (.call create)]
    let rounds := Traffic.ofRounds {} (fun _ ↦ key) fun _ ↦ .epoch
    let memory := (rounds.through history).memory
    let report : Call := .writeStatus (ghost.withStatus 1 {}) {}
    let remove : Call := .change (.remove key)
    rounds.bumps history < UInt64.size ∧
      rounds.bumps (history ++ [.operation (.call report)]) < UInt64.size ∧
      memory.Orderly ∧ memory.Distinct ∧
      (memory.answer report).1 = .ok () ∧
      (∃ written, (memory.answer report).2.ghosts.find? key = some written ∧
        written.metadata.resourceVersion = some "4") ∧
      (memory.answer remove).1 = .error (Memory.notFound key) ∧
      ∀ store, (memory.answer remove).2.shelf store = memory.shelf store := by
  intro ghost service key create history rounds memory report remove
  have hfew : rounds.bumps history < UInt64.size :=
    Nat.lt_of_le_of_lt (rounds.bumps_le_length history) (by decide)
  have hnext : rounds.bumps (history ++ [.operation (.call report)]) < UInt64.size :=
    Nat.lt_of_le_of_lt (rounds.bumps_le_length _) (show 4 < UInt64.size by decide)
  obtain ⟨horderly, hdistinct, hcalls⟩ := integrity_kept (fun _ ↦ key) (fun _ ↦ .epoch) hfew
  have haccepted : (memory.answer report).1 = .ok () := by
    dsimp only [memory, rounds, history, create, report, key, service, ghost]
    rfl
  have hrefused : (memory.answer remove).1 = .error (Memory.notFound key) := by
    dsimp only [memory, rounds, history, create, remove, key, service, ghost]
    rfl
  refine ⟨hfew, hnext, horderly, hdistinct, haccepted, ?_, hrefused,
    (hcalls remove).2.1 _ hrefused⟩
  obtain ⟨store, place, htarget, -, -, -, -, hversion⟩ := (hcalls report).2.2 _ rfl haccepted hnext
  cases htarget
  obtain ⟨written, hwritten⟩ :
      ∃ written, (memory.answer report).2.ghosts.find? key = some written := by
    dsimp only [memory, rounds, history, create, report, key, service, ghost]
    exact ⟨_, rfl⟩
  have hthree : rounds.bumps history = 3 := by
    dsimp only [memory, rounds, history, create, report, key, service, ghost]
    rfl
  refine ⟨written, hwritten, ?_⟩
  have hnumber := (hversion written hwritten).1
  rw [hthree] at hnumber
  exact hnumber

end BlogOperator
