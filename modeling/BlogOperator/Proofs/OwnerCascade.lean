import BlogOperator.Proofs.Origins

/-!
# Children go with their blogs

Suppose that every key has one identity of its own for all blogs that are ever stored under it
(`Traffic.KeepsIdentities`), and that nobody but the rounds writes children. The owner of a child is
the blog that the round has read which has made the child (`Traffic.owned_through`), and a blog that
has been read was stored under its key at some time (`Traffic.found_through`). So garbage collection
finds the owner among the living just when there is a blog under the key of that round
(`owner_cascade`).

A round that begins when there is no blog under its key reads just that and makes no other call,
whatever happens later (`Traffic.exchanges_of_gone`).
-/

set_option autoImplicit false

namespace BlogOperator

open BlogOperator.Kubernetes BlogOperator.Time

/-! ### Owners among the living -/

namespace Memory

theorem mem_livingGhosts {memory : Memory} {uid : String} :
    uid ∈ memory.livingGhosts ↔
      ∃ key ghost, memory.ghosts.find? key = some ghost ∧ ghost.metadata.uid = some uid := by
  unfold livingGhosts
  rw [List.mem_filterMap]
  constructor
  · rintro ⟨⟨key, ghost⟩, hentry, huid⟩
    exact ⟨key, ghost, Shelf.mem_entries_iff.1 hentry, huid⟩
  · rintro ⟨key, ghost, hghost, huid⟩
    exact ⟨(key, ghost), Shelf.mem_entries_iff.2 hghost, huid⟩

/-- An object with one owner may stay just when the owner is among the living. -/
theorem mayStay_iff {living : List String} {metadata : Metadata} {owner : OwnerReference}
    (howner : metadata.ownerReferences = some [owner]) :
    mayStay living metadata = true ↔ owner.uid ∈ living := by
  simp [mayStay, howner]

/-- Garbage collection leaves a child with one owner as it is when the owner is among the living,
and takes it away otherwise. -/
theorem find?_collectGarbage_of_owner {memory : Memory} {kind : ChildKind} {place : Key}
    {object : kind.Object} {owner : OwnerReference}
    (hobject : (memory.children.shelf kind).find? place = some object)
    (howner : (kind.metadata object).ownerReferences = some [owner]) :
    (memory.collectGarbage.children.shelf kind).find? place =
      if owner.uid ∈ memory.livingGhosts then some object else none := by
  rw [memory.find?_collectGarbage_eq, hobject, Option.filter_some]
  simp only [mayStay_iff howner]

/-- The blogs of two clusters have the same identity just when they are under the same key. -/
def SameIdentities (first second : Memory) : Prop :=
  ∀ key ghost key' ghost', first.ghosts.find? key = some ghost →
    second.ghosts.find? key' = some ghost' →
      (ghost.metadata.uid = ghost'.metadata.uid ↔ key = key')

theorem sameIdentities_iff {first second : Memory} :
    first.SameIdentities second ↔ ∀ entry ∈ first.ghosts.entries,
      ∀ entry' ∈ second.ghosts.entries,
        (entry.2.metadata.uid = entry'.2.metadata.uid ↔ entry.1 = entry'.1) := by
  constructor
  · intro hsame entry hentry entry' hentry'
    exact hsame _ _ _ _ (Shelf.mem_entries_iff.1 hentry) (Shelf.mem_entries_iff.1 hentry')
  · intro hentries key ghost key' ghost' hghost hghost'
    exact hentries (key, ghost) (Shelf.mem_entries_iff.2 hghost) (key', ghost')
      (Shelf.mem_entries_iff.2 hghost')

instance (first second : Memory) : Decidable (first.SameIdentities second) :=
  decidable_of_iff _ sameIdentities_iff.symm

end Memory

namespace Traffic

variable {ι : Type} [DecidableEq ι]

/-- Every key has one identity of its own for all blogs that are stored under it in a history. -/
def KeepsIdentities {α : Type} (traffic : Traffic ι α) (history : List (Event ι)) : Prop :=
  traffic.Throughout history fun memory ↦ traffic.Throughout history memory.SameIdentities

instance {α : Type} (traffic : Traffic ι α) (history : List (Event ι)) :
    Decidable (traffic.KeepsIdentities history) := by
  unfold KeepsIdentities
  infer_instance

variable {keys : ι → Key} {times : ι → Instant}

/-- What has been found in a history was there at some time in it. -/
theorem found_through {memory : Memory} {history : List (Event ι)} {index : ι}
    {exchange : Exchange} {store : Store} {key : Key} {object : store.Object}
    (hexchange : exchange ∈ (((ofRounds memory keys times).through history).passes index).exchanges)
    (hfinds : exchange.Finds store key object) :
    ∃ past, past <+: history ∧
      (((ofRounds memory keys times).through past).memory.shelf store).find? key = some object := by
  induction history using List.reverseRecOn with
  | nil => cases hexchange
  | append_singleton past event ih =>
    have hpast : past <+: past ++ [event] := List.prefix_append past [event]
    rw [through_concat] at hexchange
    rcases mem_exchanges_undergo hexchange with hold | ⟨-, request, -, rfl⟩
    · obtain ⟨earlier, hearlier, hobject⟩ := ih hold
      exact ⟨earlier, hearlier.trans hpast, hobject⟩
    · exact ⟨past, hpast, hfinds.find? rfl⟩

/-- Where every key has its identity, a blog of the identity of one that a round has read is stored
just when there is a blog under the key of the round. -/
theorem KeepsIdentities.living_iff {history : List (Event ι)}
    (hidentities : (ofRounds {} keys times).KeepsIdentities history) {index : ι} {ghost : Ghost}
    {uid : String}
    (hread : BeganWith (keys index) ghost
      (((ofRounds {} keys times).through history).passes index).exchanges)
    (huid : ghost.metadata.uid = some uid) :
    uid ∈ ((ofRounds {} keys times).through history).memory.livingGhosts ↔
      (((ofRounds {} keys times).through history).memory.ghosts.find? (keys index)).isSome := by
  obtain ⟨past, hpast, hghost⟩ := found_through hread.mem (.ghost (keys index) ghost)
  have hsame := hidentities past hpast history (List.prefix_refl history)
  rw [Memory.mem_livingGhosts, Option.isSome_iff_exists]
  constructor
  · rintro ⟨key, other, hother, huid'⟩
    have hkey := (hsame _ _ _ _ hghost hother).1 (huid.trans huid'.symm)
    exact ⟨other, hkey ▸ hother⟩
  · rintro ⟨other, hother⟩
    have huid' := (hsame _ _ _ _ hghost hother).2 rfl
    exact ⟨keys index, other, hother, huid'.symm.trans huid⟩

/-! ### Rounds for blogs that are gone -/

section Gone

variable {traffic : Traffic ι (Except Failure Unit)} {index : ι}

/-- A round that has begun without finding its blog makes no call any more. -/
theorem Regular.exchanges_undergo_of_gone (hregular : traffic.Regular keys times)
    (hbegun : (traffic.passes index).exchanges ≠ [])
    (hgone : ∀ ghost, ¬BeganWith (keys index) ghost (traffic.passes index).exchanges)
    (event : Event ι) :
    ((traffic.undergo event).passes index).exchanges = (traffic.passes index).exchanges := by
  cases event with
  | operation operation => rfl
  | step other =>
    by_cases hother : index = other
    · subst hother
      simp only [Traffic.undergo, passes_advance_self]
      rcases (traffic.passes index).advance_cases traffic.memory with
        ⟨request, hrequest, -, -⟩ | ⟨-, hexchanges, -⟩
      · have hgrounded := (hregular.grounded index).request hrequest
        cases request with
        | readGhost key => exact absurd hgrounded.2 hbegun
        | writeStatus ghost status => exact absurd hgrounded.1 (hgone ghost)
        | find kind place =>
          obtain ⟨-, ghost, hbegan⟩ := hgrounded
          exact absurd hbegan (hgone ghost)
        | change write =>
          obtain ⟨ghost, live, hbegan, -⟩ := hgrounded
          exact absurd hbegan (hgone ghost)
      · exact hexchanges
    · simp only [Traffic.undergo, passes_advance_of_ne _ hother]

theorem Regular.exchanges_through_of_gone (hregular : traffic.Regular keys times)
    (hbegun : (traffic.passes index).exchanges ≠ [])
    (hgone : ∀ ghost, ¬BeganWith (keys index) ghost (traffic.passes index).exchanges)
    (history : List (Event ι)) :
    ((traffic.through history).passes index).exchanges = (traffic.passes index).exchanges := by
  induction history generalizing traffic with
  | nil => rfl
  | cons event history ih =>
    have hsame := hregular.exchanges_undergo_of_gone hbegun hgone event
    rw [through_cons, ih (hregular.undergo event) (hsame ▸ hbegun) (hsame ▸ hgone), hsame]

/-- A round that begins when there is no blog under its key makes no call but the first, in which it
reads the blog. -/
theorem exchanges_of_gone {history : List (Event ι)} (hidle : .step index ∉ history)
    (hgone : ((ofRounds {} keys times).through history).memory.ghosts.find? (keys index) = none)
    (later : List (Event ι)) :
    ∃ reply, (((ofRounds {} keys times).through (history ++ .step index :: later)).passes
      index).exchanges = [⟨.readGhost (keys index), reply⟩] := by
  have hpass : ((ofRounds {} keys times).through history).passes index =
      (ofRounds {} keys times).passes index := passes_through_of_notMem hidle
  have hrequest : (((ofRounds {} keys times).through history).passes index).rest.request? =
      some (.readGhost (keys index)) := by
    rw [hpass]
    rfl
  obtain ⟨hexchanges, -⟩ := step_of_request hrequest
  rw [hpass] at hexchanges
  have hregular := (regular_ofRounds .empty keys times).through history
  rw [through_append, through_cons,
    (hregular.undergo (.step index)).exchanges_through_of_gone ?_ ?_ later, hexchanges]
  · exact ⟨_, rfl⟩
  · rw [hexchanges]
    exact List.cons_ne_nil _ _
  · intro ghost hbegan
    have hread := hbegan.mem
    rw [hexchanges] at hread
    have hfinds := Exchange.Finds.ghost (keys index) ghost
    rw [List.mem_singleton.1 hread] at hfinds
    have hghost : ((ofRounds {} keys times).through history).memory.ghosts.find? (keys index) =
        some ghost := hfinds.find? rfl
    rw [hgone] at hghost
    cases hghost

end Gone

end Traffic

/-! ### The cascade -/

/-- A reference to a blog bears the identity of the blog and says that the blog manages the
child. -/
theorem Ghost.ownerReference?_eq_some {ghost : Ghost} {owner : OwnerReference}
    (howner : ghost.ownerReference? = some owner) :
    ghost.metadata.uid = some owner.uid ∧ owner.controller = some true := by
  obtain ⟨name, uid, -, huid, rfl⟩ := ownerReference?_eq_some_iff.1 howner
  exact ⟨huid, rfl⟩

/-- Assumes: nobody but the rounds writes children, every key has one identity of its own for all
blogs that are ever stored under it, and there are not so many writes that their numbers run over;
all else may happen in any order.

Then each child has exactly one owner, which manages it and is the blog that the round has read
which has made the child. Garbage collection takes the child away when there is no blog under the
key of that round, and otherwise leaves it as it is, and it touches nothing else. And a round that
begins when there is no blog under its key writes nothing. -/
theorem owner_cascade {ι : Type} [DecidableEq ι] (keys : ι → Key) (times : ι → Instant)
    {history : List (Traffic.Event ι)}
    (hothers : ∀ write, .operation (.call (.change write)) ∉ history)
    (hidentities : (Traffic.ofRounds {} keys times).KeepsIdentities history)
    (hfew : (Traffic.ofRounds {} keys times).bumps history < UInt64.size) :
    let rounds := Traffic.ofRounds {} keys times
    let traffic := rounds.through history
    let memory := traffic.memory
    let collected := memory.collectGarbage
    (∀ (kind : ChildKind) place object, (memory.children.shelf kind).find? place = some object →
      ∃ index ghost owner, rounds.MadeBy history kind place index ∧
        BeganWith (keys index) ghost (traffic.passes index).exchanges ∧
        (kind.metadata object).ownerReferences = some [owner] ∧
        owner.controller = some true ∧ ghost.metadata.uid = some owner.uid ∧
        (collected.children.shelf kind).find? place =
          if (memory.ghosts.find? (keys index)).isSome then some object else none) ∧
      (∀ (kind : ChildKind) place, (memory.children.shelf kind).find? place = none →
        (collected.children.shelf kind).find? place = none) ∧
      collected.ghosts = memory.ghosts ∧
      ∀ index, .step index ∉ history → memory.ghosts.find? (keys index) = none →
        ∀ later, ∀ exchange ∈
          ((rounds.through (history ++ .step index :: later)).passes index).exchanges,
          exchange.request.name.isWrite = false := by
  intro rounds traffic memory collected
  refine ⟨fun kind place object hobject ↦ ?_, fun kind place hnone ↦ ?_, rfl,
    fun index hidle hgone later exchange hexchange ↦ ?_⟩
  · obtain ⟨index, hmade, -, ghost, owner, hbegan, howner, hreferences⟩ :=
      Traffic.owned_through hothers hfew hobject
    obtain ⟨huid, hcontroller⟩ := Ghost.ownerReference?_eq_some howner
    refine ⟨index, ghost, owner, hmade, hbegan, hreferences, hcontroller, huid, ?_⟩
    have hliving : owner.uid ∈ memory.livingGhosts ↔
        (memory.ghosts.find? (keys index)).isSome = true := hidentities.living_iff hbegan huid
    rw [Memory.find?_collectGarbage_of_owner hobject hreferences]
    simp only [hliving]
  · rw [memory.find?_collectGarbage_eq kind place, hnone]
    rfl
  · obtain ⟨reply, hexchanges⟩ := Traffic.exchanges_of_gone hidle hgone later
    rw [hexchanges, List.mem_singleton] at hexchange
    rw [hexchange]
    rfl

/-- The deployment that was made for the blog of a team runs another image since a round for its
journal, and it goes with the blog all the same. A round for the blog that begins after that writes
nothing. -/
theorem owner_cascade_marketing :
    let blog : Ghost := {
      metadata := { name := some "blog", namespaceName := some "marketing" }
      spec := ⟨"5", 1, false⟩ }
    let journal : Ghost := {
      metadata := { name := some "journal", namespaceName := some "marketing" }
      spec := ⟨"6", 1, false⟩ }
    let keys (index : Fin 3) : Key :=
      if index = 1 then ⟨"marketing", "journal"⟩ else ⟨"marketing", "blog"⟩
    let history : List (Traffic.Event (Fin 3)) :=
      [.operation (.apply blog), .operation (.apply journal)] ++ List.replicate 8 (.step 0) ++
        List.replicate 8 (.step 1) ++ [.operation (.delete (keys 0))]
    let place : Key := ⟨"marketing", ChildKind.deployment.childName "marketing"⟩
    let rounds := Traffic.ofRounds {} keys fun _ ↦ .epoch
    let memory := (rounds.through history).memory
    (∀ write, .operation (.call (.change write)) ∉ history) ∧
      rounds.KeepsIdentities history ∧ rounds.bumps history < UInt64.size ∧
      ∃ deployment owner,
        memory.children.deployments.find? place = some deployment ∧
          deployment.spec = journal.deployment.spec ∧
          deployment.metadata.ownerReferences = some [owner] ∧
          owner.uid = "uid-marketing-blog" ∧
          memory.collectGarbage.children.deployments.find? place = none ∧
          ∀ later, ∀ exchange ∈
            ((rounds.through (history ++ .step 2 :: later)).passes 2).exchanges,
            exchange.request.name.isWrite = false := by
  intro blog journal keys history place rounds memory
  have hothers (write : Write) : .operation (.call (.change write)) ∉ history := by
    simp [history]
  have hidentities : rounds.KeepsIdentities history := by decide +kernel
  have hfew : rounds.bumps history < UInt64.size :=
    Nat.lt_of_le_of_lt (rounds.bumps_le_length history) (by decide)
  obtain ⟨howned, -, -, hquiet⟩ :=
    owner_cascade keys (fun _ ↦ .epoch) hothers hidentities hfew
  refine ⟨hothers, hidentities, hfew, ?_⟩
  -- The rounds are worked out only once they are written out.
  dsimp only [memory, rounds, place, history, keys, journal, blog] at howned hquiet ⊢
  obtain ⟨index, ghost, owner, -, hbegan, hreferences, -, huid, hcollected⟩ :=
    howned .deployment ⟨"marketing", ChildKind.deployment.childName "marketing"⟩ _ rfl
  cases hreferences
  refine ⟨_, _, rfl, rfl, rfl, rfl, ?_, hquiet 2 (by simp) rfl⟩
  by_cases hindex : index = 1
  · -- The owner is not the journal.
    subst hindex
    cases hbegan
    revert huid
    decide
  · simp only [if_neg hindex] at hcollected
    exact hcollected

end BlogOperator
