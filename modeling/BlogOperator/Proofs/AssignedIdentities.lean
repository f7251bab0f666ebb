import BlogOperator.Proofs.Succession

/-!
# Identities that are assigned

A blog that is applied without an identity is stored with one that joins its namespace and its name
by a dash (`Key.assignedIdentity`). Namespaces and names may have dashes of their own, so the
identity does not always tell where the one ends and the other begins: two keys collide when they
have the same parts between dashes, grouped in different ways (`Key.Collides`), and these are the
only different keys with the same identity (`Key.assignedIdentity_eq_iff`).

Where all blogs are applied without an identity, every stored blog has the one of its key at all
times (`Traffic.assigned_through`), and so has the owner of every child that a round for the key has
made (`Traffic.owner_of_madeBy`). A child therefore stays as long as there is a blog under the key
of the round that has made it, whatever else is stored. When there is none, it goes, unless a blog
is stored whose key collides with that key. So blogs and their children are kept apart exactly while
no two keys collide under which blogs are stored (`cascades_apart_iff`).
-/

set_option autoImplicit false

namespace BlogOperator

open BlogOperator.Kubernetes BlogOperator.Time

/-! ### Keys with the same identity -/

namespace Key

variable {first second : Key}

/-- The identity that a blog under a key is stored with when it is applied without one. -/
def assignedIdentity (key : Key) : String :=
  s!"uid-{key.namespaceName}-{key.name}"

/-- One key has the namespace `space` and the name `part-name`, and the other one the namespace
`space-part` and the name `name`. -/
def Regroups (first second : Key) : Prop :=
  ∃ part, second.namespaceName = first.namespaceName ++ "-" ++ part ∧
    first.name = part ++ "-" ++ second.name

/-- Two keys have the same parts, grouped in different ways. -/
def Collides (first second : Key) : Prop :=
  first.Regroups second ∨ second.Regroups first

theorem regroups_iff : first.Regroups second ↔ ∃ part,
    second.namespaceName.toList = first.namespaceName.toList ++ '-' :: part ∧
      first.name.toList = part ++ '-' :: second.name.toList := by
  constructor
  · rintro ⟨part, hspace, hname⟩
    exact ⟨part.toList, by simp [hspace], by simp [hname]⟩
  · rintro ⟨part, hspace, hname⟩
    refine ⟨String.ofList part, ?_, ?_⟩
    · rw [← String.toList_inj, hspace]
      simp
    · rw [← String.toList_inj, hname]
      simp

theorem assignedIdentity_eq_iff_toList : first.assignedIdentity = second.assignedIdentity ↔
    first.namespaceName.toList ++ '-' :: first.name.toList =
      second.namespaceName.toList ++ '-' :: second.name.toList := by
  have hjoined (key : Key) :
      key.assignedIdentity = "uid-" ++ (key.namespaceName ++ ("-" ++ key.name)) := by
    rw [← String.append_assoc, ← String.append_assoc]
    rfl
  rw [hjoined, hjoined, String.append_right_inj, ← String.toList_inj]
  simp

/-- What one namespace has more than the other is nothing, or it begins with the dash that comes
after the other one in the joined text. -/
theorem eq_or_regroups {shift : List Char}
    (hspace : second.namespaceName.toList = first.namespaceName.toList ++ shift)
    (hname : '-' :: first.name.toList = shift ++ '-' :: second.name.toList) :
    first = second ∨ first.Regroups second := by
  cases shift with
  | nil =>
    rw [List.append_nil] at hspace
    obtain ⟨-, hrest⟩ := List.cons.inj hname
    exact .inl (mk_eq_iff.2 ⟨String.toList_inj.1 hspace.symm, String.toList_inj.1 hrest⟩)
  | cons dash part =>
    obtain ⟨rfl, hrest⟩ := List.cons.inj hname
    exact .inr (regroups_iff.2 ⟨part, hspace, hrest⟩)

theorem Regroups.assignedIdentity_eq (hregroups : first.Regroups second) :
    first.assignedIdentity = second.assignedIdentity := by
  obtain ⟨part, hspace, hname⟩ := regroups_iff.1 hregroups
  rw [assignedIdentity_eq_iff_toList, hspace, hname, List.append_assoc, List.cons_append]

/-- Keys have the same identity just when they are the same or collide. -/
theorem assignedIdentity_eq_iff :
    first.assignedIdentity = second.assignedIdentity ↔ first = second ∨ first.Collides second := by
  constructor
  · intro hsame
    rw [assignedIdentity_eq_iff_toList] at hsame
    rcases List.append_eq_append_iff.1 hsame with
      ⟨shift, hspace, hname⟩ | ⟨shift, hspace, hname⟩
    · exact (eq_or_regroups hspace hname).imp_right .inl
    · exact (eq_or_regroups hspace hname).imp Eq.symm .inr
  · rintro (rfl | hregroups | hregroups)
    · rfl
    · exact hregroups.assignedIdentity_eq
    · exact hregroups.assignedIdentity_eq.symm

/-- The namespaces are of different lengths. -/
theorem Regroups.ne (hregroups : first.Regroups second) : first ≠ second := by
  rintro rfl
  obtain ⟨part, hspace, -⟩ := regroups_iff.1 hregroups
  simpa using congrArg List.length hspace

theorem collides_iff :
    first.Collides second ↔
      first ≠ second ∧ first.assignedIdentity = second.assignedIdentity := by
  rw [assignedIdentity_eq_iff]
  constructor
  · rintro (hregroups | hregroups)
    · exact ⟨hregroups.ne, .inr (.inl hregroups)⟩
    · exact ⟨hregroups.ne.symm, .inr (.inr hregroups)⟩
  · rintro ⟨hne, hsame⟩
    exact hsame.resolve_left hne

instance (first second : Key) : Decidable (first.Collides second) :=
  decidable_of_iff _ collides_iff.symm

end Key

/-! ### Stored blogs -/

namespace Memory

variable {memory : Memory}

/-- Every blog has the identity that is assigned for its key. -/
def Assigned (memory : Memory) : Prop :=
  ∀ key ghost, memory.ghosts.find? key = some ghost →
    ghost.metadata.uid = some key.assignedIdentity

/-- No two keys collide under which there are blogs. -/
def KeysApart (memory : Memory) : Prop :=
  ∀ entry ∈ memory.ghosts.entries, ∀ entry' ∈ memory.ghosts.entries, ¬entry.1.Collides entry'.1

instance (memory : Memory) : Decidable memory.KeysApart := by
  unfold KeysApart
  infer_instance

theorem keysApart_iff : memory.KeysApart ↔ ∀ key other,
    (memory.ghosts.find? key).isSome → (memory.ghosts.find? other).isSome →
      ¬key.Collides other := by
  constructor
  · intro hapart key other hkey hother
    obtain ⟨ghost, hghost⟩ := Option.isSome_iff_exists.1 hkey
    obtain ⟨ghost', hghost'⟩ := Option.isSome_iff_exists.1 hother
    exact hapart (key, ghost) (Shelf.mem_entries_iff.2 hghost) (other, ghost')
      (Shelf.mem_entries_iff.2 hghost')
  · intro hapart entry hentry entry' hentry'
    exact hapart entry.1 entry'.1
      (Option.isSome_iff_exists.2 ⟨_, Shelf.mem_entries_iff.1 hentry⟩)
      (Option.isSome_iff_exists.2 ⟨_, Shelf.mem_entries_iff.1 hentry'⟩)

namespace Assigned

theorem delete (hassigned : memory.Assigned) (key : Key) : (memory.delete key).Assigned :=
  fun other ghost hghost ↦ hassigned other ghost (find?_of_delete hghost)

/-- Blogs under different keys have different identities just when the keys do not collide. -/
theorem sameIdentities_iff_keysApart (hassigned : memory.Assigned) :
    memory.SameIdentities memory ↔ memory.KeysApart := by
  rw [keysApart_iff]
  constructor
  · intro hsame key other hkey hother hcollides
    obtain ⟨ghost, hghost⟩ := Option.isSome_iff_exists.1 hkey
    obtain ⟨ghost', hghost'⟩ := Option.isSome_iff_exists.1 hother
    obtain ⟨hne, hidentity⟩ := Key.collides_iff.1 hcollides
    refine hne ((hsame key ghost other ghost' hghost hghost').1 ?_)
    rw [hassigned key ghost hghost, hassigned other ghost' hghost', hidentity]
  · intro hapart key ghost other ghost' hghost hghost'
    rw [hassigned key ghost hghost, hassigned other ghost' hghost', Option.some_inj,
      Key.assignedIdentity_eq_iff]
    exact or_iff_left (hapart key other (Option.isSome_iff_exists.2 ⟨ghost, hghost⟩)
      (Option.isSome_iff_exists.2 ⟨ghost', hghost'⟩))

/-- The identity of a key is among the living just when there is a blog under the key, or under one
that collides with it. -/
theorem living_iff (hassigned : memory.Assigned) {key : Key} :
    key.assignedIdentity ∈ memory.livingGhosts ↔ (memory.ghosts.find? key).isSome ∨
      ∃ other, (memory.ghosts.find? other).isSome ∧ key.Collides other := by
  rw [mem_livingGhosts]
  constructor
  · rintro ⟨other, ghost, hghost, huid⟩
    have hstored : (memory.ghosts.find? other).isSome := Option.isSome_iff_exists.2 ⟨ghost, hghost⟩
    have hidentity : key.assignedIdentity = other.assignedIdentity :=
      Option.some.inj (huid.symm.trans (hassigned other ghost hghost))
    rcases Key.assignedIdentity_eq_iff.1 hidentity with rfl | hcollides
    · exact .inl hstored
    · exact .inr ⟨other, hstored, hcollides⟩
  · rintro (hstored | ⟨other, hstored, hcollides⟩)
    · obtain ⟨ghost, hghost⟩ := Option.isSome_iff_exists.1 hstored
      exact ⟨key, ghost, hghost, hassigned key ghost hghost⟩
    · obtain ⟨ghost, hghost⟩ := Option.isSome_iff_exists.1 hstored
      refine ⟨other, ghost, hghost, ?_⟩
      rw [hassigned other ghost hghost, (Key.collides_iff.1 hcollides).2]

section Collection

variable {kind : ChildKind} {place key : Key} {object : kind.Object} {owner : OwnerReference}

/-- Garbage collection leaves a child whose owner has the identity of a key under which there is a
blog. -/
theorem find?_collectGarbage_of_stored (hassigned : memory.Assigned)
    (hobject : (memory.children.shelf kind).find? place = some object)
    (howner : (kind.metadata object).ownerReferences = some [owner])
    (huid : owner.uid = key.assignedIdentity) (hstored : (memory.ghosts.find? key).isSome) :
    (memory.collectGarbage.children.shelf kind).find? place = some object := by
  have hliving : owner.uid ∈ memory.livingGhosts :=
    huid ▸ hassigned.living_iff.2 (.inl hstored)
  rw [find?_collectGarbage_of_owner hobject howner, if_pos hliving]

/-- Garbage collection takes away a child whose owner has the identity of a key under which there is
no blog, unless there is one under a key that collides with it. -/
theorem find?_collectGarbage_eq_none_iff (hassigned : memory.Assigned)
    (hobject : (memory.children.shelf kind).find? place = some object)
    (howner : (kind.metadata object).ownerReferences = some [owner])
    (huid : owner.uid = key.assignedIdentity) (hgone : memory.ghosts.find? key = none) :
    (memory.collectGarbage.children.shelf kind).find? place = none ↔
      ∀ other, (memory.ghosts.find? other).isSome → ¬key.Collides other := by
  have hliving : owner.uid ∈ memory.livingGhosts ↔
      ∃ other, (memory.ghosts.find? other).isSome ∧ key.Collides other := by
    rw [huid, hassigned.living_iff, hgone]
    simp
  rw [find?_collectGarbage_of_owner hobject howner, ite_eq_right_iff, hliving]
  simp

end Collection

end Assigned

end Memory

/-! ### Children and the rounds that have made them -/

/-- A blog without an identity is stored with the one that is assigned for its key. -/
theorem Ghost.identity_eq {ghost : Ghost} (hblank : ghost.metadata.uid = none) :
    ghost.identity = (Key.ofMetadata ghost.metadata).assignedIdentity := by
  unfold identity
  rw [hblank]
  rfl

namespace Traffic

section MadeBy

variable {ι α : Type} [DecidableEq ι] {traffic : Traffic ι α} {history : List (Event ι)}
  {kind : ChildKind} {place : Key} {index other : ι}

/-- A child that a round has made is there. -/
theorem MadeBy.ne_none (hmade : traffic.MadeBy history kind place index) :
    ((traffic.through history).memory.children.shelf kind).find? place ≠ none := by
  obtain ⟨past, rest, rfl, -, hsince⟩ := hmade
  have hthere := hsince rest (List.prefix_refl rest)
  rw [← through_append] at hthere
  simpa using hthere

/-- A child has been there since a step. If it was not there before a step that is not earlier, then
that is the same step. -/
theorem step_eq_of_since {past between rest rest' : List (Event ι)}
    (hsince : (traffic.through (past ++ [.step index])).Throughout rest fun memory ↦
      (memory.children.shelf kind).find? place ≠ none)
    (hbefore : ((traffic.through (past ++ between)).memory.children.shelf kind).find? place = none)
    (hrest : .step index :: rest = between ++ .step other :: rest') : index = other := by
  cases between with
  | nil =>
    cases hrest
    rfl
  | cons event between =>
    obtain ⟨rfl, hlater⟩ := List.cons.inj hrest
    have hthere := hsince between ⟨_, hlater.symm⟩
    rw [← through_append] at hthere
    exact absurd hbefore (by simpa using hthere)

/-- Only one round has made a child. -/
theorem MadeBy.unique (hmade : traffic.MadeBy history kind place index)
    (hother : traffic.MadeBy history kind place other) : index = other := by
  obtain ⟨past, rest, rfl, hbefore, hsince⟩ := hmade
  obtain ⟨past', rest', hhistory, hbefore', hsince'⟩ := hother
  rcases List.append_eq_append_iff.1 hhistory with ⟨between, rfl, hrest⟩ | ⟨between, rfl, hrest⟩
  · exact step_eq_of_since hsince hbefore' hrest
  · exact (step_eq_of_since hsince' hbefore hrest).symm

end MadeBy

variable {ι : Type} [DecidableEq ι] {keys : ι → Key} {times : ι → Instant}
  {history : List (Event ι)}

/-- When no blog is applied with an identity, an event leaves all blogs with those that are
assigned. -/
theorem Regular.assigned_undergo {traffic : Traffic ι (Except Failure Unit)}
    (hregular : traffic.Regular keys times) (hassigned : traffic.memory.Assigned) {event : Event ι}
    (hblank : ∀ ghost, event = .operation (.apply ghost) → ghost.metadata.uid = none) :
    (traffic.undergo event).memory.Assigned := by
  intro key ghost hghost
  have horderly := (hregular.undergo event).reachable.orderly
  obtain ⟨uid, huid⟩ := Option.ne_none_iff_exists'.1 (horderly.ghosts_identified hghost)
  rw [huid]
  rcases uid?_undergo (Memory.uid?_eq_some.2 ⟨ghost, hghost, huid⟩) with
    hold | ⟨applied, happlied, rfl, rfl⟩
  · obtain ⟨before, hbefore, hsame⟩ := Memory.uid?_eq_some.1 hold
    rw [← hsame, hassigned key before hbefore]
  · rw [Ghost.identity_eq (hblank applied happlied)]

/-- Blogs that are applied without identities are stored with those that are assigned. -/
theorem assigned_through
    (hblank : ∀ ghost, .operation (.apply ghost) ∈ history → ghost.metadata.uid = none) :
    ((ofRounds {} keys times).through history).memory.Assigned := by
  induction history using List.reverseRecOn with
  | nil =>
    intro key ghost hghost
    cases hghost
  | append_singleton past event ih =>
    have hpast := ih fun ghost happlied ↦ hblank ghost (List.mem_append_left _ happlied)
    rw [through_concat]
    refine ((regular_ofRounds .empty keys times).through past).assigned_undergo hpast ?_
    rintro ghost rfl
    exact hblank ghost (by simp)

/-- The owner of a child that a round has made has the identity that is assigned for the key of the
round. -/
theorem owner_of_madeBy (hothers : ∀ write, .operation (.call (.change write)) ∉ history)
    (hblank : ∀ ghost, .operation (.apply ghost) ∈ history → ghost.metadata.uid = none)
    (hfew : (ofRounds {} keys times).bumps history < UInt64.size) {kind : ChildKind} {place : Key}
    {index : ι} (hmade : (ofRounds {} keys times).MadeBy history kind place index) :
    ∃ object owner,
      (((ofRounds {} keys times).through history).memory.children.shelf kind).find? place =
        some object ∧
      (kind.metadata object).ownerReferences = some [owner] ∧
      owner.uid = (keys index).assignedIdentity := by
  obtain ⟨object, hobject⟩ := Option.ne_none_iff_exists'.1 hmade.ne_none
  obtain ⟨other, hother, -, ghost, owner, hbegan, howner, hreferences⟩ :=
    owned_through hothers hfew hobject
  obtain rfl : index = other := hmade.unique hother
  -- The blog that the round has read was stored then, with the identity of its key.
  obtain ⟨past, hpast, hghost⟩ := found_through hbegan.mem (.ghost (keys index) ghost)
  have hassigned : ((ofRounds {} keys times).through past).memory.Assigned :=
    assigned_through fun ghost happlied ↦ hblank ghost (hpast.subset happlied)
  obtain ⟨huid, -⟩ := Ghost.ownerReference?_eq_some howner
  exact ⟨object, owner, hobject, hreferences,
    Option.some.inj (huid.symm.trans (hassigned (keys index) ghost hghost))⟩

/-- When the blog under a key is deleted and garbage is collected, no child is left that a round for
the key has made, and every child is left as it is that a round has made for a blog which is still
stored. -/
def Cascades {α : Type} (traffic : Traffic ι α) (keys : ι → Key) (history : List (Event ι))
    (key : Key) : Prop :=
  let memory := (traffic.through history).memory
  let collected := (memory.delete key).collectGarbage
  ∀ (kind : ChildKind) place index, traffic.MadeBy history kind place index →
    (keys index = key → (collected.children.shelf kind).find? place = none) ∧
      ((collected.ghosts.find? (keys index)).isSome →
        (collected.children.shelf kind).find? place = (memory.children.shelf kind).find? place)

/-- Blogs that are stored under keys which do not collide take their own children with them. -/
theorem cascades_of_keysApart (hothers : ∀ write, .operation (.call (.change write)) ∉ history)
    (hblank : ∀ ghost, .operation (.apply ghost) ∈ history → ghost.metadata.uid = none)
    (hfew : (ofRounds {} keys times).bumps history < UInt64.size)
    (hapart : ((ofRounds {} keys times).through history).memory.KeysApart) {key : Key}
    (hkey : (((ofRounds {} keys times).through history).memory.ghosts.find? key).isSome) :
    (ofRounds {} keys times).Cascades keys history key := by
  unfold Cascades
  intro memory collected kind place index hmade
  obtain ⟨object, owner, hobject, howner, huid⟩ := owner_of_madeBy hothers hblank hfew hmade
  have hassigned : (memory.delete key).Assigned := (assigned_through hblank).delete key
  refine ⟨?_, fun hstored ↦ ?_⟩
  · rintro rfl
    have hgone : (memory.delete (keys index)).ghosts.find? (keys index) = none := by
      rw [Memory.find?_delete, if_pos rfl]
    rw [hassigned.find?_collectGarbage_eq_none_iff hobject howner huid hgone]
    intro other hother
    obtain ⟨ghost, hghost⟩ := Option.isSome_iff_exists.1 hother
    exact Memory.keysApart_iff.1 hapart (keys index) other hkey
      (Option.isSome_iff_exists.2 ⟨ghost, Memory.find?_of_delete hghost⟩)
  · rw [hobject]
    exact hassigned.find?_collectGarbage_of_stored hobject howner huid hstored

end Traffic

/-- Assumes: nobody but the rounds writes children, all blogs are applied without identities, and
there are not so many writes that their numbers run over; all else may happen in any order.

Then stored blogs have different identities under different keys, and each of them takes with it
just the children that have been made for it, exactly if no two keys collide under which blogs are
stored. Whatever the keys are, a child stays while there is a blog under the key of the round that
has made it. When there is none, the child goes exactly if no blog is stored under a key that
collides with that key. -/
theorem cascades_apart_iff {ι : Type} [DecidableEq ι] (keys : ι → Key) (times : ι → Instant)
    {history : List (Traffic.Event ι)}
    (hothers : ∀ write, .operation (.call (.change write)) ∉ history)
    (hblank : ∀ ghost, .operation (.apply ghost) ∈ history → ghost.metadata.uid = none)
    (hfew : (Traffic.ofRounds {} keys times).bumps history < UInt64.size) :
    let rounds := Traffic.ofRounds {} keys times
    let memory := (rounds.through history).memory
    let collected := memory.collectGarbage
    ((memory.SameIdentities memory ∧
        ∀ key, (memory.ghosts.find? key).isSome → rounds.Cascades keys history key) ↔
          memory.KeysApart) ∧
      ∀ (kind : ChildKind) place index, rounds.MadeBy history kind place index →
        ((memory.ghosts.find? (keys index)).isSome →
          (collected.children.shelf kind).find? place =
            (memory.children.shelf kind).find? place) ∧
        (memory.ghosts.find? (keys index) = none →
          ((collected.children.shelf kind).find? place = none ↔
            ∀ other, (memory.ghosts.find? other).isSome → ¬(keys index).Collides other)) := by
  intro rounds memory collected
  have hassigned : memory.Assigned := Traffic.assigned_through hblank
  refine ⟨⟨?_, fun hapart ↦ ⟨?_, fun key hkey ↦ ?_⟩⟩, fun kind place index hmade ↦ ?_⟩
  · rintro ⟨hsame, -⟩
    exact hassigned.sameIdentities_iff_keysApart.1 hsame
  · exact hassigned.sameIdentities_iff_keysApart.2 hapart
  · exact Traffic.cascades_of_keysApart hothers hblank hfew hapart hkey
  · obtain ⟨object, owner, hobject, howner, huid⟩ :=
      Traffic.owner_of_madeBy hothers hblank hfew hmade
    refine ⟨fun hstored ↦ ?_, fun hgone ↦ ?_⟩
    · rw [hobject]
      exact hassigned.find?_collectGarbage_of_stored hobject howner huid hstored
    · exact hassigned.find?_collectGarbage_eq_none_iff hobject howner huid hgone

/-- The name of one team begins with that of the other, and there is a dash after it, but the keys
do not collide. The blog that is deleted takes its deployment with it, and the deployment of the
other one stays. -/
theorem cascades_apart_iff_marketing :
    let keys (index : Fin 2) : Key :=
      if index = 0 then ⟨"marketing", "blog-eu"⟩ else ⟨"marketing-eu", "blog"⟩
    let blog (key : Key) : Ghost := {
      metadata := { name := some key.name, namespaceName := some key.namespaceName }
      spec := ⟨"5", 1, false⟩ }
    let history : List (Traffic.Event (Fin 2)) :=
      [.operation (.apply (blog (keys 0))), .operation (.apply (blog (keys 1)))] ++
        List.replicate 16 (.step 0) ++ List.replicate 16 (.step 1)
    let rounds := Traffic.ofRounds {} keys fun _ ↦ .epoch
    let memory := (rounds.through history).memory
    let collected := (memory.delete (keys 0)).collectGarbage
    (∀ write, .operation (.call (.change write)) ∉ history) ∧
      (∀ ghost, .operation (.apply ghost) ∈ history → ghost.metadata.uid = none) ∧
      rounds.bumps history < UInt64.size ∧ memory.KeysApart ∧ memory.SameIdentities memory ∧
      (memory.child? "marketing" .deployment).isSome ∧
      collected.child? "marketing" .deployment = none ∧
      (memory.child? "marketing-eu" .deployment).isSome ∧
      collected.child? "marketing-eu" .deployment = memory.child? "marketing-eu" .deployment := by
  intro keys blog history rounds memory collected
  have hothers (write : Write) : .operation (.call (.change write)) ∉ history := by
    simp [history]
  have hblank (ghost : Ghost) (happlied : .operation (.apply ghost) ∈ history) :
      ghost.metadata.uid = none := by
    have hghost : ghost = blog (keys 0) ∨ ghost = blog (keys 1) := by
      simpa [history] using happlied
    rcases hghost with rfl | rfl
    · rfl
    · rfl
  have hfew : rounds.bumps history < UInt64.size :=
    Nat.lt_of_le_of_lt (rounds.bumps_le_length history) (by decide)
  have hapart : memory.KeysApart := by decide +kernel
  obtain ⟨hsame, hcascades⟩ :=
    (cascades_apart_iff keys (fun _ ↦ .epoch) hothers hblank hfew).1.2 hapart
  have hcascade := hcascades (keys 0) (by decide +kernel)
  have hfirst : rounds.MadeBy history .deployment
      ⟨"marketing", ChildKind.deployment.childName "marketing"⟩ 0 :=
    ⟨history.take 9, history.drop 10, rfl, by decide +kernel, by decide +kernel⟩
  have hsecond : rounds.MadeBy history .deployment
      ⟨"marketing-eu", ChildKind.deployment.childName "marketing-eu"⟩ 1 :=
    ⟨history.take 25, history.drop 26, rfl, by decide +kernel, by decide +kernel⟩
  exact ⟨hothers, hblank, hfew, hapart, hsame, by decide +kernel,
    (hcascade .deployment _ 0 hfirst).1 rfl, by decide +kernel,
    (hcascade .deployment _ 1 hsecond).2 (by decide +kernel)⟩

/-- The blogs of two teams have the same identity. When one of them is deleted, the identity is
still among the living, and garbage collection leaves the deployment that has been made for it. -/
theorem collision_keeps_deployment :
    let keys (index : Fin 2) : Key :=
      if index = 0 then ⟨"marketing", "eu-blog"⟩ else ⟨"marketing-eu", "blog"⟩
    let blog (key : Key) : Ghost := {
      metadata := { name := some key.name, namespaceName := some key.namespaceName }
      spec := ⟨"5", 1, false⟩ }
    let history : List (Traffic.Event (Fin 2)) :=
      [.operation (.apply (blog (keys 0))), .operation (.apply (blog (keys 1)))] ++
        List.replicate 16 (.step 0) ++ List.replicate 16 (.step 1)
    let rounds := Traffic.ofRounds {} keys fun _ ↦ .epoch
    let memory := (rounds.through history).memory
    let collected := (memory.delete (keys 0)).collectGarbage
    (∀ write, .operation (.call (.change write)) ∉ history) ∧
      (∀ ghost, .operation (.apply ghost) ∈ history → ghost.metadata.uid = none) ∧
      memory.uid? (keys 0) = some "uid-marketing-eu-blog" ∧
      memory.uid? (keys 1) = some "uid-marketing-eu-blog" ∧
      ¬memory.SameIdentities memory ∧
      rounds.MadeBy history .deployment
        ⟨"marketing", ChildKind.deployment.childName "marketing"⟩ 0 ∧
      (collected.child? "marketing" .deployment).isSome ∧
      ¬rounds.Cascades keys history (keys 0) := by
  intro keys blog history rounds memory collected
  have hmade : rounds.MadeBy history .deployment
      ⟨"marketing", ChildKind.deployment.childName "marketing"⟩ 0 :=
    ⟨history.take 9, history.drop 10, rfl, by decide +kernel, by decide +kernel⟩
  have hleft : (collected.child? "marketing" .deployment).isSome := by decide +kernel
  refine ⟨fun write ↦ by simp [history], fun ghost happlied ↦ ?_, by decide +kernel,
    by decide +kernel, by decide +kernel, hmade, hleft, fun hcascades ↦ ?_⟩
  · have hghost : ghost = blog (keys 0) ∨ ghost = blog (keys 1) := by
      simpa [history] using happlied
    rcases hghost with rfl | rfl
    · rfl
    · rfl
  · have hnone : collected.child? "marketing" .deployment = none :=
      (hcascades .deployment _ 0 hmade).1 rfl
    rw [hnone] at hleft
    cases hleft

end BlogOperator
