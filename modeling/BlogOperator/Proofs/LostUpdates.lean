import BlogOperator.Proofs.History
import BlogOperator.Proofs.Versions

/-!
# No update is lost

A round writes twice what it has read before: the status of its blog, and a deployment. In between,
the cluster may change in every way (`Traffic.Event`). As long as the number of writes does not run
over (`Traffic.bumps`), the cluster vouches for all that the rounds have found
(`Traffic.Vouched.through`). A write of something found is then accepted just when the thing is
still there as it was found (`Memory.Vouches.accepts_status`, `Memory.Vouches.accepts_replacement`),
and whatever was changed in the meantime is not written over (`unchanged_since_read`).
-/

set_option autoImplicit false

namespace BlogOperator

open BlogOperator.Kubernetes BlogOperator.Time

/-! ### What is accepted -/

namespace Memory

variable {memory : Memory}

/-- The status of a blog is accepted when there is a blog of the same version under its key. -/
theorem answer_writeStatus_eq_ok {ghost : Ghost} {status : GhostStatus} :
    (memory.answer (.writeStatus ghost status)).1 = .ok () ↔
      memory.faults .writeStatus = none ∧
        ∃ stored, memory.ghosts.find? (Key.ofMetadata ghost.metadata) = some stored ∧
          stored.metadata.resourceVersion = ghost.metadata.resourceVersion := by
  unfold answer
  cases hfault : memory.faults .writeStatus with
  | some message => simp [Call.name, hfault]
  | none =>
    simp only [Call.name, hfault, serve, serveStatus, recorded, true_and]
    cases memory.ghosts.find? (Key.ofMetadata ghost.metadata) with
    | none => simp
    | some stored =>
      by_cases hsame : stored.metadata.resourceVersion = ghost.metadata.resourceVersion
      · simp [hsame]
      · simp [hsame]

/-- A status that is accepted is all that changes in the blog, its version apart. -/
theorem find?_answer_writeStatus {ghost stored : Ghost} {status : GhostStatus}
    (hstored : memory.ghosts.find? (Key.ofMetadata ghost.metadata) = some stored)
    (haccepted : (memory.answer (.writeStatus ghost status)).1 = .ok ()) :
    (memory.answer (.writeStatus ghost status)).2.ghosts.find? (Key.ofMetadata ghost.metadata) =
      some (stored.withStatus (memory.version + 1) status) := by
  obtain ⟨hfault, other, hother, hsame⟩ := answer_writeStatus_eq_ok.1 haccepted
  obtain rfl : stored = other := Option.some.inj (hstored.symm.trans hother)
  simp [answer, Call.name, hfault, serve, serveStatus, recorded, hstored, hsame, storeGhost,
    Ghost.withStatus]

/-- A call changes no blog, unless it is the offer of a status and is accepted. -/
theorem ghosts_answer (memory : Memory) (request : Call) :
    (memory.answer request).2.ghosts = memory.ghosts ∨
      ∃ ghost status stored, request = .writeStatus ghost status ∧
        (memory.answer (.writeStatus ghost status)).1 = .ok () ∧
        memory.ghosts.find? (Key.ofMetadata ghost.metadata) = some stored ∧
        (memory.answer (.writeStatus ghost status)).2.ghosts =
          memory.ghosts.insert (Key.ofMetadata ghost.metadata)
            (stored.withStatus (memory.version + 1) status) := by
  cases request with
  | readGhost key => exact .inl (memory.shelf_answer_of_ne .ghosts nofun)
  | find kind key => exact .inl (memory.shelf_answer_of_ne .ghosts nofun)
  | change write =>
    refine .inl (memory.shelf_answer_of_ne .ghosts fun home key htarget ↦ ?_)
    cases write with
    | create kind object => cases htarget; exact nofun
    | replace deployment => cases htarget; exact nofun
    | remove place => cases htarget; exact nofun
  | writeStatus ghost status =>
    unfold answer
    cases hfault : memory.faults .writeStatus with
    | some message => exact .inl (by simp only [Call.name, hfault]; rfl)
    | none =>
      simp only [Call.name, hfault, serve, serveStatus, recorded]
      cases hstored : memory.ghosts.find? (Key.ofMetadata ghost.metadata) with
      | none => exact .inl rfl
      | some stored =>
        by_cases hsame : stored.metadata.resourceVersion = ghost.metadata.resourceVersion
        · refine .inr ⟨ghost, status, stored, rfl, ?_, hstored, ?_⟩
          · simp only [hstored, if_pos hsame]
          · simp only [hstored, if_pos hsame]
            rfl
        · exact .inl (by simp only [if_neg hsame])

/-- A deployment is accepted when there is a deployment of the same version under its key. -/
theorem answer_replace_eq_ok {deployment : Deployment} :
    (memory.answer (.change (.replace deployment))).1 = .ok () ↔
      memory.faults .replace = none ∧
        ∃ stored : Deployment,
          memory.children.deployments.find? (Key.ofMetadata deployment.metadata) = some stored ∧
            stored.metadata.resourceVersion = deployment.metadata.resourceVersion := by
  unfold answer
  cases hfault : memory.faults .replace with
  | some message => simp [Call.name, Write.name, hfault]
  | none =>
    simp only [Call.name, Write.name, hfault, serve, serveWrite, recorded, true_and]
    cases memory.children.deployments.find? (Key.ofMetadata deployment.metadata) with
    | none => simp
    | some stored =>
      by_cases hsame : stored.metadata.resourceVersion = deployment.metadata.resourceVersion
      · simp [hsame]
      · simp [hsame]

end Memory

namespace Memory.Vouches

variable {memory : Memory} {key : Key}

/-- A status is accepted for the blog that is there, and for no other copy of it. -/
theorem accepts_status {ghost : Ghost} (hvouches : memory.Vouches .ghosts key ghost)
    (hkey : Key.ofMetadata ghost.metadata = key) (status : GhostStatus) :
    (memory.answer (.writeStatus ghost status)).1 = .ok () ↔
      memory.faults .writeStatus = none ∧ memory.ghosts.find? key = some ghost := by
  rw [answer_writeStatus_eq_ok, hkey]
  refine and_congr_right fun _ ↦ ⟨?_, fun hghost ↦ ⟨ghost, hghost, rfl⟩⟩
  rintro ⟨stored, hstored, hversions⟩
  obtain rfl : stored = ghost := hvouches.same hstored hversions
  exact hstored

/-- A deployment is accepted in place of the one that is there, and of no other copy of it. -/
theorem accepts_replacement {live : Deployment}
    (hvouches : memory.Vouches (.children .deployment) key live)
    (hkey : Key.ofMetadata live.metadata = key) (spec : Option DeploymentSpec) :
    (memory.answer (.change (.replace { live with spec }))).1 = .ok () ↔
      memory.faults .replace = none ∧ memory.children.deployments.find? key = some live := by
  rw [answer_replace_eq_ok, hkey]
  refine and_congr_right fun _ ↦ ⟨?_, fun hlive ↦ ⟨live, hlive, rfl⟩⟩
  rintro ⟨stored, hstored, hversions⟩
  obtain rfl : stored = live := hvouches.same hstored hversions
  exact hstored

end Memory.Vouches

/-! ### What rounds have found -/

namespace Traffic

variable {ι α : Type} [DecidableEq ι]

/-- The number of writes that are counted in a history. -/
def bumps (traffic : Traffic ι α) : List (Event ι) → Nat
  | [] => 0
  | event :: history =>
    (if (traffic.undergo event).memory.version = traffic.memory.version then 0 else 1) +
      (traffic.undergo event).bumps history

/-- An event counts at most one write. -/
theorem bumps_le_length (traffic : Traffic ι α) (history : List (Event ι)) :
    traffic.bumps history ≤ history.length := by
  induction history generalizing traffic with
  | nil => exact Nat.le_refl _
  | cons event history ih =>
    have hrest := ih (traffic.undergo event)
    rw [bumps, List.length_cons]
    split <;> omega

theorem bumps_append (traffic : Traffic ι α) (first second : List (Event ι)) :
    traffic.bumps (first ++ second) =
      traffic.bumps first + (traffic.through first).bumps second := by
  induction first generalizing traffic with
  | nil => simp [bumps, through]
  | cons event first ih =>
    rw [List.cons_append, bumps, bumps, through_cons, ih (traffic.undergo event), Nat.add_assoc]

theorem bumps_cons (traffic : Traffic ι α) (event : Event ι) (history : List (Event ι)) :
    traffic.bumps (event :: history) =
      traffic.bumps [event] + (traffic.undergo event).bumps history :=
  traffic.bumps_append [event] history

theorem bumps_mono (traffic : Traffic ι α) {past history : List (Event ι)}
    (hpast : past <+: history) : traffic.bumps past ≤ traffic.bumps history := by
  obtain ⟨rest, rfl⟩ := hpast
  rw [bumps_append]
  exact Nat.le_add_right _ _

/-- What an event can do to the stores. -/
theorem moves_undergo (traffic : Traffic ι α) (event : Event ι) :
    traffic.memory.Moves (traffic.undergo event).memory := by
  rcases traffic.memory_undergo event with
    hmemory | ⟨operation, -, hmemory⟩ | ⟨index, request, -, -, hmemory⟩
  · rw [hmemory]
    exact Memory.moves_self _
  · rw [hmemory]
    exact Memory.moves_perform _ operation
  · rw [hmemory]
    exact Memory.moves_answer _ request

/-- Without running over, the number of writes is raised by those that an event counts. -/
theorem toNat_version_undergo (traffic : Traffic ι α) (event : Event ι)
    (hfew : traffic.memory.version.toNat + traffic.bumps [event] < UInt64.size) :
    (traffic.undergo event).memory.version.toNat =
      traffic.memory.version.toNat + traffic.bumps [event] := by
  rw [bumps, bumps, Nat.add_zero] at hfew ⊢
  rcases (traffic.moves_undergo event).version with hversion | hversion
  · rw [if_pos hversion, hversion, Nat.add_zero]
  · have hchanged : (traffic.undergo event).memory.version ≠ traffic.memory.version := by
      rw [hversion]
      simp
    rw [if_neg hchanged] at hfew ⊢
    rw [hversion, UInt64.toNat_add, UInt64.toNat_one]
    exact Nat.mod_eq_of_lt hfew

/-- While the number of writes does not run over, it does not fall. -/
theorem version_undergo {traffic : Traffic ι α} {event : Event ι} {history : List (Event ι)}
    (hfew : traffic.memory.version.toNat + traffic.bumps (event :: history) < UInt64.size) :
    traffic.memory.version.toNat ≤ (traffic.undergo event).memory.version.toNat ∧
      (traffic.undergo event).memory.version.toNat + (traffic.undergo event).bumps history <
        UInt64.size := by
  have hbumps := traffic.bumps_cons event history
  have hversion := traffic.toNat_version_undergo event (by omega)
  omega

/-- Without running over, the number of writes is raised by those that a history counts. -/
theorem toNat_version_through {traffic : Traffic ι α} {history : List (Event ι)}
    (hfew : traffic.memory.version.toNat + traffic.bumps history < UInt64.size) :
    (traffic.through history).memory.version.toNat =
      traffic.memory.version.toNat + traffic.bumps history := by
  induction history generalizing traffic with
  | nil => rfl
  | cons event history ih =>
    obtain ⟨-, hrest⟩ := version_undergo hfew
    have hbumps := traffic.bumps_cons event history
    have hversion := traffic.toNat_version_undergo event (by omega)
    rw [through_cons, ih hrest, hversion, hbumps, Nat.add_assoc]

/-- Traffic in which the cluster vouches for everything that has been found. -/
structure Vouched (traffic : Traffic ι α) : Prop where
  dated : traffic.memory.Dated
  copies : ∀ {index exchange store key object},
    exchange ∈ (traffic.passes index).exchanges → exchange.Finds store key object →
      traffic.memory.Vouches store key object

omit [DecidableEq ι] in
/-- No writes have been counted in an empty cluster. -/
theorem toNat_version_add (keys : ι → Key) (times : ι → Instant) (count : Nat) :
    (ofRounds {} keys times).memory.version.toNat + count = count :=
  Nat.zero_add count

omit [DecidableEq ι] in
theorem vouched_ofRounds (keys : ι → Key) (times : ι → Instant) :
    (ofRounds {} keys times).Vouched where
  dated := Memory.dated_empty
  copies hexchange := by cases hexchange

namespace Vouched

variable {traffic : Traffic ι α}

theorem undergo (hvouched : traffic.Vouched) {event : Event ι}
    (hrising : traffic.memory.version.toNat ≤ (traffic.undergo event).memory.version.toNat) :
    (traffic.undergo event).Vouched where
  dated := Memory.Dated.moves (traffic.moves_undergo event) hrising hvouched.dated
  copies hexchange hfinds := by
    refine Memory.Vouches.moves (traffic.moves_undergo event) hrising ?_
    rcases mem_exchanges_undergo hexchange with hold | ⟨-, request, -, rfl⟩
    · exact hvouched.copies hold hfinds
    · exact hvouched.dated (hfinds.find? rfl)

/-- The cluster goes on to vouch for everything that has been found, while the number of writes does
not run over. -/
theorem through (hvouched : traffic.Vouched) {history : List (Event ι)}
    (hfew : traffic.memory.version.toNat + traffic.bumps history < UInt64.size) :
    (traffic.through history).Vouched := by
  induction history generalizing traffic with
  | nil => exact hvouched
  | cons event history ih =>
    obtain ⟨hrising, hrest⟩ := version_undergo hfew
    exact ih (hvouched.undergo hrising) hrest

/-- The cluster vouches for everything that rounds have found, from an empty cluster on. -/
theorem ofRounds {keys : ι → Key} {times : ι → Instant} {history : List (Event ι)}
    (hfew : (Traffic.ofRounds {} keys times).bumps history < UInt64.size) :
    ((Traffic.ofRounds {} keys times).through history).Vouched := by
  refine (vouched_ofRounds keys times).through ?_
  rwa [toNat_version_add]

end Vouched

/-! ### What rounds write -/

namespace Vouched

variable {keys : ι → Key} {times : ι → Instant} {traffic : Traffic ι (Except Failure Unit)}
  {index : ι}

omit [DecidableEq ι] in
/-- The status of the blog that a round has read is accepted just when that blog is still there, and
nothing but the status is written then. -/
theorem status (hvouched : traffic.Vouched) (hregular : traffic.Regular keys times)
    {ghost : Ghost} {status : GhostStatus}
    (hrequest : (traffic.passes index).rest.request? = some (.writeStatus ghost status)) :
    let answer := traffic.memory.answer (.writeStatus ghost status)
    BeganWith (keys index) ghost (traffic.passes index).exchanges ∧
      (answer.1 = .ok () ↔ traffic.memory.faults .writeStatus = none ∧
        traffic.memory.ghosts.find? (keys index) = some ghost) ∧
      (answer.1 = .ok () → ∃ version,
        answer.2.ghosts.find? (keys index) = some (ghost.withStatus version status)) := by
  intro answer
  obtain ⟨hbegan, -⟩ := (hregular.grounded index).request hrequest
  have hkey : Key.ofMetadata ghost.metadata = keys index :=
    hregular.credible hbegan.mem ghost rfl
  have hcopy : traffic.memory.Vouches .ghosts (keys index) ghost :=
    hvouched.copies hbegan.mem (.ghost (keys index) ghost)
  have haccepts := hcopy.accepts_status hkey status
  refine ⟨hbegan, haccepts, fun haccepted ↦ ⟨traffic.memory.version + 1, ?_⟩⟩
  have hghost := (haccepts.1 haccepted).2
  rw [← hkey] at hghost ⊢
  exact Memory.find?_answer_writeStatus hghost haccepted

omit [DecidableEq ι] in
/-- What a round puts in place of a deployment is the deployment that it has just found, with
another specification, and it is accepted just when that deployment is still there. -/
theorem replacement (hvouched : traffic.Vouched) (hregular : traffic.Regular keys times)
    {deployment : Deployment}
    (hrequest : (traffic.passes index).rest.request? = some (.change (.replace deployment))) :
    let team := (keys index).namespaceName
    let place : Key := ⟨team, ChildKind.deployment.childName team⟩
    ∃ live : Deployment,
      (traffic.passes index).exchanges.getLast? =
        some ⟨.find .deployment place, .ok (some live)⟩ ∧
      deployment = { live with spec := deployment.spec } ∧
      ((traffic.memory.answer (.change (.replace deployment))).1 = .ok () ↔
        traffic.memory.faults .replace = none ∧
          traffic.memory.children.deployments.find? place = some live) := by
  intro team place
  obtain ⟨ghost, live, -, hlast, hwants⟩ := (hregular.grounded index).request hrequest
  cases hwants with
  | @replacement live hdrifted =>
    have hfound : ⟨.find .deployment place, .ok (some live)⟩ ∈
        (traffic.passes index).exchanges := List.mem_of_getLast? hlast
    have hkey : Key.ofMetadata live.metadata = place := hregular.credible hfound live rfl
    have hcopy : traffic.memory.Vouches (.children .deployment) place live :=
      hvouched.copies hfound (.child .deployment place live)
    exact ⟨live, hlast, rfl, hcopy.accepts_replacement hkey _⟩

end Vouched

end Traffic

/-- Assumes: there are not so many writes that their numbers run over.

However rounds take their turns with one another and with whatever else is done to a cluster,
no round writes over a change that it has not seen: the status that it offers is that of the blog
which it has read, and is accepted just when this very blog is still there, and the deployment that
it replaces is the one which it has looked up last, and the replacement is accepted just when this
very deployment is still there, calls that are made to fail apart. -/
theorem unchanged_since_read {ι : Type} [DecidableEq ι] (keys : ι → Key) (times : ι → Instant)
    {history : List (Traffic.Event ι)}
    (hfew : (Traffic.ofRounds {} keys times).bumps history < UInt64.size) (index : ι) :
    let traffic := (Traffic.ofRounds {} keys times).through history
    let memory := traffic.memory
    let underway := traffic.passes index
    let key := keys index
    let place : Key :=
      ⟨key.namespaceName, ChildKind.deployment.childName key.namespaceName⟩
    (∀ ghost status, underway.rest.request? = some (.writeStatus ghost status) →
      let answer := memory.answer (.writeStatus ghost status)
      underway.exchanges.head? = some ⟨.readGhost key, .ok (some ghost)⟩ ∧
        (answer.1 = .ok () ↔
          memory.faults .writeStatus = none ∧ memory.ghosts.find? key = some ghost) ∧
        (answer.1 = .ok () →
          ∃ version, answer.2.ghosts.find? key = some (ghost.withStatus version status))) ∧
      ∀ deployment, underway.rest.request? = some (.change (.replace deployment)) →
        ∃ live : Deployment,
          underway.exchanges.getLast? = some ⟨.find .deployment place, .ok (some live)⟩ ∧
          deployment = { live with spec := deployment.spec } ∧
          ((memory.answer (.change (.replace deployment))).1 = .ok () ↔
            memory.faults .replace = none ∧
              memory.children.deployments.find? place = some live) := by
  intro traffic memory underway key place
  have hregular : traffic.Regular keys times :=
    (Traffic.regular_ofRounds .empty keys times).through history
  have hvouched : traffic.Vouched := by
    refine (Traffic.vouched_ofRounds keys times).through ?_
    have hnone : (Traffic.ofRounds {} keys times).memory.version.toNat = 0 := rfl
    rw [hnone, Nat.zero_add]
    exact hfew
  exact ⟨fun ghost status hrequest ↦ hvouched.status hregular hrequest,
    fun deployment hrequest ↦ hvouched.replacement hregular hrequest⟩

/-- One round is about to replace a deployment that somebody else has made. Another could not look
up the volume claim and is about to report it, when the blog is edited. The replacement is accepted,
and the report is not. -/
theorem unchanged_since_read_marketing :
    let ghost : Ghost := {
      metadata := { name := some "blog", namespaceName := some "marketing" }
      spec := ⟨"5", 1, true⟩ }
    let live : Deployment := {
      metadata := {
        name := some (ChildKind.deployment.childName "marketing")
        namespaceName := some "marketing" } }
    let keys (_ : Bool) : Key := ⟨"marketing", "blog"⟩
    let history : List (Traffic.Event Bool) :=
      [.operation (.apply ghost), .operation (.call (.change (.create .deployment live)))] ++
        List.replicate 7 (.step true) ++
        [.operation (.setFault (.find .volumeClaim) (some "timed out"))] ++
        List.replicate 4 (.step false) ++
        [.operation (.edit (keys false) fun spec ↦ { spec with replicas := 2 })]
    let rounds := Traffic.ofRounds {} keys fun _ ↦ .epoch
    let traffic := rounds.through history
    rounds.bumps history < UInt64.size ∧
      (∃ deployment,
        (traffic.passes true).rest.request? = some (.change (.replace deployment)) ∧
          (traffic.memory.answer (.change (.replace deployment))).1 = .ok ()) ∧
      ∃ ghost status,
        (traffic.passes false).rest.request? = some (.writeStatus ghost status) ∧
          (traffic.memory.answer (.writeStatus ghost status)).1 ≠ .ok () := by
  intro ghost live keys history rounds traffic
  have hfew : rounds.bumps history < UInt64.size :=
    Nat.lt_of_le_of_lt (rounds.bumps_le_length history) (by decide)
  have hrounds := unchanged_since_read keys (fun _ ↦ .epoch) hfew
  refine ⟨hfew, ?_, ?_⟩
  · have hreplacement := (hrounds true).2
    -- The rounds are worked out only once they are written out.
    dsimp only [traffic, rounds, history, keys, live, ghost] at hreplacement ⊢
    obtain ⟨found, hlast, -, haccepts⟩ := hreplacement _ rfl
    refine ⟨_, rfl, haccepts.2 ⟨rfl, ?_⟩⟩
    cases hlast
    rfl
  · have hreport := (hrounds false).1
    dsimp only [traffic, rounds, history, keys, live, ghost] at hreport ⊢
    obtain ⟨hhead, haccepts, -⟩ := hreport _ _ rfl
    refine ⟨_, _, rfl, fun haccepted ↦ ?_⟩
    -- The blog that is there has two pods, and the blog that was read has one.
    have hghost := (haccepts.1 haccepted).2
    have hreplicas := congrArg (Option.map fun ghost : Ghost ↦ ghost.spec.replicas) hghost
    cases hhead
    revert hreplicas
    decide

end BlogOperator
