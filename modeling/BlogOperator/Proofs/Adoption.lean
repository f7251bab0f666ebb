import BlogOperator.Child.Owner
import Mathlib.Data.List.Dedup

/-!
# Owners that come one after another

`Ghost.tryAdopt` makes a blog the controlling owner of metadata in place: it works out the reference
first, then drops the older references to the same identity, and adds the new one at the end. What
it leaves is what `Ghost.adopt` hands out, and a call that fails leaves everything as it was
(`run_tryAdopt`). `adoptInTurn` makes the calls of several blogs in turn. Only those that a reference
can name count (`run_adoptInTurn`).

A reference drops the others to its identity whenever it comes, so that of many the last ones are
left, behind those of the older references whose identity has not come up
(`Metadata.ownerReferences_ownInTurn`). `owners_adoptInTurn` says so of the blogs themselves.

Other controlling owners are not dropped. The blog that has just been set is the only one exactly if
all controlling owners before it have borne its identity (`sole_controller_iff`), and a second one
comes to stand beside the first otherwise (`second_controller_stays`).
-/

set_option autoImplicit false

namespace BlogOperator

open BlogOperator.Kubernetes

/-! ### Calls in place -/

namespace Kubernetes.Metadata

/-- Metadata with the list of owners changed, if there is one. -/
def mapOwners (change : List OwnerReference → List OwnerReference) (metadata : Metadata) :
    Metadata :=
  { metadata with ownerReferences := metadata.ownerReferences.map change }

end Kubernetes.Metadata

namespace Ghost

/-- Makes a blog the controlling owner of metadata in place. -/
def tryAdopt (ghost : Ghost) : StateM Metadata (Except Failure Unit) := do
  match ghost.ownerReference? with
  | none => return .error .missingIdentity
  | some owner =>
    modify fun metadata ↦
      { metadata with ownerReferences := some (metadata.ownerReferences.getD []) }
    modify (Metadata.mapOwners (List.filter fun reference ↦ reference.uid ≠ owner.uid))
    modify (Metadata.mapOwners (· ++ [owner]))
    return .ok ()

/-- A call in place leaves what adoption hands out, and all as it was if it fails. -/
theorem run_tryAdopt (ghost : Ghost) (metadata : Metadata) :
    ghost.tryAdopt.run metadata =
      match ghost.ownerReference? with
      | none => (.error .missingIdentity, metadata)
      | some owner => (.ok (), metadata.own owner) := by
  unfold tryAdopt
  cases ghost.ownerReference? with
  | none => rfl
  | some owner => rfl

theorem adopt_eq_run_tryAdopt (ghost : Ghost) (metadata : Metadata) :
    let call := ghost.tryAdopt.run metadata
    ghost.adopt metadata = call.1.map fun _ ↦ call.2 := by
  dsimp only
  rw [run_tryAdopt]
  unfold adopt
  cases ghost.ownerReference? with
  | none => rfl
  | some owner => rfl

/-- Whether a reference can name a blog: it has a name and an identity. -/
def isIdentified (ghost : Ghost) : Bool :=
  ghost.metadata.name.isSome && ghost.metadata.uid.isSome

theorem isSome_ownerReference? (ghost : Ghost) :
    ghost.ownerReference?.isSome = ghost.isIdentified := by
  unfold ownerReference? isIdentified
  cases ghost.metadata.name with
  | none => rfl
  | some name =>
    cases ghost.metadata.uid with
    | none => rfl
    | some uid => rfl

end Ghost

/-- Makes blogs the controlling owner of metadata in place, one after another, whatever becomes of
each call. -/
def adoptInTurn (ghosts : List Ghost) : StateM Metadata (List (Except Failure Unit)) :=
  ghosts.mapM Ghost.tryAdopt

/-! ### References that come one after another -/

namespace Kubernetes

/-- Of the references to one identity the last one, in order. -/
def OwnerReference.lastOfEach (references : List OwnerReference) : List OwnerReference :=
  references.pwFilter fun former later ↦ former.uid ≠ later.uid

namespace OwnerReference

theorem lastOfEach_cons (reference : OwnerReference) (rest : List OwnerReference) :
    lastOfEach (reference :: rest) =
      if reference.uid ∈ rest.map uid then lastOfEach rest else reference :: lastOfEach rest := by
  have hlater : (∀ later ∈ lastOfEach rest, reference.uid ≠ later.uid) ↔
      ∀ later ∈ rest, reference.uid ≠ later.uid := by
    refine List.forall_mem_pwFilter (fun {former between later} hne ↦ ?_) reference rest
    by_cases hsame : former.uid = between.uid
    · exact .inr (hsame ▸ hne)
    · exact .inl hsame
  by_cases hcomes : reference.uid ∈ rest.map uid
  · rw [if_pos hcomes]
    obtain ⟨later, hmem, hsame⟩ := List.mem_map.1 hcomes
    exact List.pwFilter_cons_of_neg fun hall ↦ hlater.1 hall later hmem hsame.symm
  · rw [if_neg hcomes]
    exact List.pwFilter_cons_of_pos (hlater.2 fun later hmem hsame ↦
      hcomes (hsame ▸ List.mem_map_of_mem hmem))

/-- The identities, each at the place of its last reference. -/
theorem map_uid_lastOfEach (references : List OwnerReference) :
    (lastOfEach references).map uid = (references.map uid).dedup :=
  (List.pwFilter_map (R := (· ≠ ·)) uid references).symm

/-- A reference is kept if no later one has its identity. -/
theorem exists_of_mem_lastOfEach {reference : OwnerReference} {references : List OwnerReference}
    (hmem : reference ∈ lastOfEach references) :
    ∃ earlier later, references = earlier ++ reference :: later ∧
      ∀ other ∈ later, other.uid ≠ reference.uid := by
  induction references with
  | nil => cases hmem
  | cons first rest ih =>
    have hrest (hmem : reference ∈ lastOfEach rest) :
        ∃ earlier later, first :: rest = earlier ++ reference :: later ∧
          ∀ other ∈ later, other.uid ≠ reference.uid := by
      obtain ⟨earlier, later, rfl, hlater⟩ := ih hmem
      exact ⟨first :: earlier, later, rfl, hlater⟩
    rw [lastOfEach_cons] at hmem
    by_cases hcomes : first.uid ∈ rest.map uid
    · rw [if_pos hcomes] at hmem
      exact hrest hmem
    · rw [if_neg hcomes] at hmem
      rcases List.mem_cons.1 hmem with rfl | hmem
      · refine ⟨[], rest, rfl, fun other hother hsame ↦ hcomes ?_⟩
        exact List.mem_map.2 ⟨other, hother, hsame⟩
      · exact hrest hmem

end OwnerReference

namespace Metadata

open OwnerReference

/-- Metadata with owners added in turn. -/
def ownInTurn (owners : List OwnerReference) (metadata : Metadata) : Metadata :=
  owners.foldl (fun current owner ↦ current.own owner) metadata

@[simp] theorem ownInTurn_nil (metadata : Metadata) : metadata.ownInTurn [] = metadata := rfl

theorem ownInTurn_cons (owner : OwnerReference) (rest : List OwnerReference)
    (metadata : Metadata) :
    metadata.ownInTurn (owner :: rest) = (metadata.own owner).ownInTurn rest := rfl

/-- An owner that comes again changes nothing. -/
theorem own_own (owner : OwnerReference) (metadata : Metadata) :
    (metadata.own owner).own owner = metadata.own owner := by
  simp [own, List.filter_append]

theorem ownInTurn_append (former later : List OwnerReference) (metadata : Metadata) :
    metadata.ownInTurn (former ++ later) = (metadata.ownInTurn former).ownInTurn later :=
  List.foldl_append

/-- Owners in turn leave the older references with other identities, and behind them the last
reference to each identity. -/
theorem owners_ownInTurn (owners : List OwnerReference) (metadata : Metadata) :
    (metadata.ownInTurn owners).ownerReferences.getD [] =
      (metadata.ownerReferences.getD []).filter
          (fun reference ↦ reference.uid ∉ owners.map OwnerReference.uid) ++
        lastOfEach owners := by
  induction owners generalizing metadata with
  | nil => simp [lastOfEach]
  | cons owner rest ih =>
    have hown : (metadata.own owner).ownerReferences.getD [] =
        (metadata.ownerReferences.getD []).filter (fun reference ↦ reference.uid ≠ owner.uid) ++
          [owner] := rfl
    have hothers : (metadata.ownerReferences.getD []).filter (fun reference ↦
          reference.uid ∉ (owner :: rest).map OwnerReference.uid) =
        ((metadata.ownerReferences.getD []).filter fun reference ↦
          reference.uid ≠ owner.uid).filter fun reference ↦
            reference.uid ∉ rest.map OwnerReference.uid := by
      rw [List.filter_filter]
      refine List.filter_congr fun reference _ ↦ ?_
      rw [← Bool.decide_and, decide_eq_decide, List.map_cons, List.mem_cons, not_or, and_comm]
    rw [ownInTurn_cons, ih, hown, List.filter_append, ← hothers, lastOfEach_cons,
      List.append_assoc]
    by_cases hcomes : owner.uid ∈ rest.map OwnerReference.uid
    · rw [if_pos hcomes, List.filter_singleton, decide_eq_false (not_not.2 hcomes)]
      rfl
    · rw [if_neg hcomes, List.filter_singleton, decide_eq_true hcomes]
      rfl

/-- Owners in turn change nothing but the list of owners, which is there as soon as there has been
one. -/
theorem ownInTurn_eq {owners : List OwnerReference} (hsome : owners ≠ []) (metadata : Metadata) :
    metadata.ownInTurn owners =
      { metadata with
        ownerReferences := some ((metadata.ownInTurn owners).ownerReferences.getD []) } := by
  induction owners generalizing metadata with
  | nil => exact absurd rfl hsome
  | cons owner rest ih =>
    rw [ownInTurn_cons]
    by_cases hrest : rest = []
    · subst hrest
      rfl
    · exact ih hrest (metadata.own owner)

end Metadata

end Kubernetes

/-! ### Calls one after another -/

namespace Ghost

/-- What the call for a blog reports. -/
def adoptionReply (ghost : Ghost) : Except Failure Unit :=
  if ghost.isIdentified then .ok () else .error .missingIdentity

theorem adoptionReply_eq_ok_iff {ghost : Ghost} :
    ghost.adoptionReply = .ok () ↔ ghost.isIdentified = true := by
  unfold adoptionReply
  by_cases hidentified : ghost.isIdentified = true
  · simp [hidentified]
  · simp [hidentified]

theorem fst_run_tryAdopt (ghost : Ghost) (metadata : Metadata) :
    (ghost.tryAdopt.run metadata).1 = ghost.adoptionReply := by
  rw [run_tryAdopt, adoptionReply, ← isSome_ownerReference?]
  cases ghost.ownerReference? with
  | none => rfl
  | some owner => rfl

theorem snd_run_tryAdopt (ghost : Ghost) (metadata : Metadata) :
    (ghost.tryAdopt.run metadata).2 = metadata.ownInTurn ghost.ownerReference?.toList := by
  rw [run_tryAdopt]
  cases ghost.ownerReference? with
  | none => rfl
  | some owner => rfl

end Ghost

/-- Of the blogs that come in turn only those count that a reference can name. -/
theorem run_adoptInTurn (ghosts : List Ghost) (metadata : Metadata) :
    (adoptInTurn ghosts).run metadata =
      (ghosts.map Ghost.adoptionReply,
        metadata.ownInTurn (ghosts.filterMap Ghost.ownerReference?)) := by
  induction ghosts generalizing metadata with
  | nil => rfl
  | cons ghost rest ih =>
    have hfirst : (adoptInTurn (ghost :: rest)).run metadata =
        let call := ghost.tryAdopt.run metadata
        let later := (adoptInTurn rest).run call.2
        (call.1 :: later.1, later.2) := by
      unfold adoptInTurn
      rw [List.mapM_cons]
      rfl
    rw [hfirst]
    dsimp only
    rw [ih, ghost.fst_run_tryAdopt, ghost.snd_run_tryAdopt, ← Metadata.ownInTurn_append]
    cases howner : ghost.ownerReference? with
    | none => simp [howner]
    | some owner => simp [howner]

/-- The blogs among others that a reference can name. -/
def adopters (ghosts : List Ghost) : List Ghost :=
  ghosts.filter Ghost.isIdentified

/-- The identities of blogs, in order. -/
def identities (ghosts : List Ghost) : List String :=
  ghosts.filterMap fun ghost ↦ ghost.metadata.uid

theorem map_uid_ownerReferences (ghosts : List Ghost) :
    (ghosts.filterMap Ghost.ownerReference?).map OwnerReference.uid =
      identities (adopters ghosts) := by
  unfold identities adopters
  rw [List.map_filterMap, List.filterMap_filter]
  refine List.filterMap_congr fun ghost _ ↦ ?_
  unfold Ghost.ownerReference? Ghost.isIdentified
  cases ghost.metadata.name with
  | none => rfl
  | some name =>
    cases ghost.metadata.uid with
    | none => rfl
    | some uid => rfl

theorem ownerReferences_eq_nil_iff {ghosts : List Ghost} :
    ghosts.filterMap Ghost.ownerReference? = [] ↔ adopters ghosts = [] := by
  rw [adopters, List.filterMap_eq_nil_iff, List.filter_eq_nil_iff]
  refine forall₂_congr fun ghost _ ↦ ?_
  rw [← Ghost.isSome_ownerReference?, Option.not_isSome_iff_eq_none]

/-- A reference that is left names the last blog with its identity that a reference can name. -/
theorem exists_of_mem_lastOfEach_ownerReferences {ghosts : List Ghost} {reference : OwnerReference}
    (hmem : reference ∈ OwnerReference.lastOfEach (ghosts.filterMap Ghost.ownerReference?)) :
    ∃ earlier ghost later, ghosts = earlier ++ ghost :: later ∧
      ghost.ownerReference? = some reference ∧
      ∀ other ∈ adopters later, other.metadata.uid ≠ some reference.uid := by
  obtain ⟨formerReferences, laterReferences, hreferences, hlater⟩ :=
    OwnerReference.exists_of_mem_lastOfEach hmem
  obtain ⟨former, rest, rfl, -, hrest⟩ := List.filterMap_eq_append_iff.1 hreferences
  obtain ⟨between, ghost, later, rfl, -, hghost, hlaterReferences⟩ :=
    List.filterMap_eq_cons_iff.1 hrest
  refine ⟨former ++ between, ghost, later, by simp, hghost, fun other hother hsame ↦ ?_⟩
  have huid : reference.uid ∈ identities (adopters later) :=
    List.mem_filterMap.2 ⟨other, hother, hsame⟩
  rw [← map_uid_ownerReferences, hlaterReferences] at huid
  obtain ⟨another, hanother, huid⟩ := List.mem_map.1 huid
  exact hlater another hanother huid

/-- A blog that comes again at once changes nothing. -/
theorem adoptInTurn_again {ghosts : List Ghost} {last : Ghost} (hlast : last ∈ ghosts.getLast?)
    (metadata : Metadata) :
    ((adoptInTurn (ghosts ++ [last])).run metadata).2 =
      ((adoptInTurn ghosts).run metadata).2 := by
  obtain ⟨former, rfl⟩ := List.getLast?_eq_some_iff.1 hlast
  simp only [run_adoptInTurn, List.filterMap_append, Metadata.ownInTurn_append]
  cases howner : last.ownerReference? with
  | none => simp [howner]
  | some owner => simp [howner, Metadata.ownInTurn_cons, Metadata.own_own]

/-- When blogs are made the controlling owner of metadata one after another, the call for each
succeeds exactly if it has a name and an identity, hands out what it leaves, and leaves all as it
was if it fails. In the end nothing but the list of owners has changed, and that only if a call has
succeeded. It has the older references whose identity is that of no such blog, in their order, and
then one reference to each identity at the place of the last call for it (`List.dedup` leaves the
last one of several), with the name from that call. To repeat the last call changes nothing. -/
theorem owners_adoptInTurn (metadata : Metadata) (ghosts : List Ghost) :
    let uids := identities (adopters ghosts)
    let run := (adoptInTurn ghosts).run metadata
    (∀ (ghost : Ghost) (current : Metadata),
      let call := ghost.tryAdopt.run current
      ghost.adopt current = (call.1.map fun _ ↦ call.2) ∧
        (call.1 = .ok () ↔ ghost.metadata.name.isSome ∧ ghost.metadata.uid.isSome) ∧
        (call.1 ≠ .ok () → call.2 = current)) ∧
      run.1 = ghosts.map Ghost.adoptionReply ∧
      (adopters ghosts = [] → run.2 = metadata) ∧
      (adopters ghosts ≠ [] → ∃ added,
        run.2 = { metadata with
            ownerReferences := some (
              (metadata.ownerReferences.getD []).filter (fun reference ↦ reference.uid ∉ uids) ++
                added) } ∧
          added.map OwnerReference.uid = uids.dedup ∧
          ∀ reference ∈ added, ∃ earlier ghost later name,
            ghosts = earlier ++ ghost :: later ∧
              (∀ other ∈ adopters later, other.metadata.uid ≠ some reference.uid) ∧
              ghost.metadata.uid = some reference.uid ∧ ghost.metadata.name = some name ∧
              reference = {
                apiVersion := Ghost.apiVersion, kind := Ghost.kind, name, uid := reference.uid
                controller := some true }) ∧
      ∀ last ∈ ghosts.getLast?, ((adoptInTurn (ghosts ++ [last])).run metadata).2 = run.2 := by
  intro uids run
  have hrun : run = (ghosts.map Ghost.adoptionReply,
      metadata.ownInTurn (ghosts.filterMap Ghost.ownerReference?)) :=
    run_adoptInTurn ghosts metadata
  refine ⟨fun ghost current ↦ ⟨ghost.adopt_eq_run_tryAdopt current, ?_, ?_⟩, ?_, ?_, ?_,
    fun last hlast ↦ adoptInTurn_again hlast metadata⟩
  · rw [ghost.fst_run_tryAdopt, Ghost.adoptionReply_eq_ok_iff, Ghost.isIdentified,
      Bool.and_eq_true]
  · intro hfails
    rw [ghost.run_tryAdopt] at hfails ⊢
    cases howner : ghost.ownerReference? with
    | none => rfl
    | some owner => simp [howner] at hfails
  · rw [hrun]
  · intro hnone
    rw [hrun, ownerReferences_eq_nil_iff.2 hnone, Metadata.ownInTurn_nil]
  · intro hsome
    refine ⟨OwnerReference.lastOfEach (ghosts.filterMap Ghost.ownerReference?), ?_, ?_, ?_⟩
    · rw [hrun, Metadata.ownInTurn_eq (mt ownerReferences_eq_nil_iff.1 hsome),
        Metadata.owners_ownInTurn, map_uid_ownerReferences]
    · rw [OwnerReference.map_uid_lastOfEach, map_uid_ownerReferences]
    · intro reference hreference
      obtain ⟨earlier, ghost, later, hghosts, howner, hlater⟩ :=
        exists_of_mem_lastOfEach_ownerReferences hreference
      obtain ⟨name, uid, hname, huid, rfl⟩ := Ghost.ownerReference?_eq_some_iff.1 howner
      exact ⟨earlier, ghost, later, name, hghosts, hlater, huid, hname, rfl⟩

/-- Metadata that two references to one shop own, and a journal. A blog without an identity comes
and fails, then a blog, the shop, and the blog again under a new name. The journal stays in front,
the shop follows, and the blog is the last one, under its new name. -/
theorem owners_adoptInTurn_marketing :
    let named (name : String) (uid : Option String) : Ghost := {
      metadata := { name := some name, namespaceName := some "marketing", uid }
      spec := ⟨"5", 1, false⟩ }
    let metadata : Metadata := {
      name := some "ghost-data-pvc-marketing"
      ownerReferences := some [
        { name := "shop", uid := "2" }, { name := "journal", uid := "3" },
        { name := "shop", uid := "2", controller := some false }] }
    let ghosts := [named "draft" none, named "blog" (some "1"), named "shop" (some "2"),
      named "news" (some "1")]
    let run := (adoptInTurn ghosts).run metadata
    run.1 = [.error .missingIdentity, .ok (), .ok (), .ok ()] ∧
      adopters ghosts ≠ [] ∧
      (∃ added,
        run.2 = { metadata with
            ownerReferences := some ([{ name := "journal", uid := "3" }] ++ added) } ∧
          added.map OwnerReference.uid = ["2", "1"] ∧
          added.map OwnerReference.name = ["shop", "news"]) ∧
      ((adoptInTurn (ghosts ++ [named "news" (some "1")])).run metadata).2 = run.2 := by
  intro named metadata ghosts run
  have hsome : adopters ghosts ≠ [] := by decide
  obtain ⟨-, hreplies, -, hafter, hagain⟩ := owners_adoptInTurn metadata ghosts
  obtain ⟨added, hmetadata, huids, -⟩ := hafter hsome
  refine ⟨hreplies, hsome, ⟨added, hmetadata, huids, ?_⟩, hagain _ rfl⟩
  cases congrArg Metadata.ownerReferences hmetadata
  rfl

/-! ### Controlling owners -/

namespace Kubernetes.Metadata

/-- The references to the owners that manage the object. -/
def controllers (metadata : Metadata) : List OwnerReference :=
  (metadata.ownerReferences.getD []).filter fun reference ↦ reference.controller = some true

/-- A controlling owner that is added stands behind the controlling owners with other identities. -/
theorem controllers_own {owner : OwnerReference} (howner : owner.controller = some true)
    (metadata : Metadata) :
    (metadata.own owner).controllers =
      metadata.controllers.filter (fun reference ↦ reference.uid ≠ owner.uid) ++ [owner] := by
  simp only [controllers, own, Option.getD_some, List.filter_append, List.filter_filter]
  rw [List.filter_singleton, decide_eq_true howner]
  simp only [Bool.and_comm, cond_true]

/-- All controlling owners bear an identity. -/
def ControlledBy (metadata : Metadata) (uid : String) : Prop :=
  ∀ reference ∈ metadata.controllers, reference.uid = uid

/-- When a controlling owner is added, all of them bear an identity exactly if they did before and
the new one does. -/
theorem controlledBy_own {owner : OwnerReference} (howner : owner.controller = some true)
    {metadata : Metadata} {uid : String} :
    (metadata.own owner).ControlledBy uid ↔ metadata.ControlledBy uid ∧ owner.uid = uid := by
  unfold ControlledBy
  rw [controllers_own howner]
  constructor
  · intro hall
    have howner : owner.uid = uid := hall owner (by simp)
    refine ⟨fun reference hreference ↦ ?_, howner⟩
    by_cases hsame : reference.uid = owner.uid
    · exact hsame.trans howner
    · exact hall reference (by simp [hreference, hsame])
  · rintro ⟨hall, howner⟩ reference hreference
    rcases List.mem_append.1 hreference with hbefore | hlast
    · exact hall reference (List.mem_filter.1 hbefore).1
    · rw [List.mem_singleton.1 hlast]
      exact howner

theorem controlledBy_ownInTurn {owners : List OwnerReference}
    (howners : ∀ owner ∈ owners, owner.controller = some true) {metadata : Metadata}
    {uid : String} :
    (metadata.ownInTurn owners).ControlledBy uid ↔
      metadata.ControlledBy uid ∧ ∀ owner ∈ owners, owner.uid = uid := by
  induction owners generalizing metadata with
  | nil => simp
  | cons owner rest ih =>
    obtain ⟨howner, hrest⟩ := List.forall_mem_cons.1 howners
    rw [ownInTurn_cons, ih hrest, controlledBy_own howner, List.forall_mem_cons, and_assoc]

/-- A controlling owner that is added is the only one exactly if all before bore its identity. -/
theorem controllers_own_eq_singleton_iff {owner : OwnerReference}
    (howner : owner.controller = some true) {metadata : Metadata} :
    (metadata.own owner).controllers = [owner] ↔ metadata.ControlledBy owner.uid := by
  rw [controllers_own howner, List.append_left_eq_self, List.filter_eq_nil_iff]
  simp [ControlledBy]

end Kubernetes.Metadata

/-- The references to blogs say that the blogs manage the object. -/
theorem controller_of_mem_ownerReferences {ghosts : List Ghost} {owner : OwnerReference}
    (hmem : owner ∈ ghosts.filterMap Ghost.ownerReference?) : owner.controller = some true := by
  obtain ⟨ghost, -, howner⟩ := List.mem_filterMap.1 hmem
  obtain ⟨name, uid, -, -, rfl⟩ := Ghost.ownerReference?_eq_some_iff.1 howner
  rfl

theorem forall_ownerReferences_uid_iff {ghosts : List Ghost} {uid : String} :
    (∀ owner ∈ ghosts.filterMap Ghost.ownerReference?, owner.uid = uid) ↔
      ∀ ghost ∈ adopters ghosts, ghost.metadata.uid = some uid := by
  constructor
  · intro hall ghost hghost
    obtain ⟨hmem, hidentified⟩ := List.mem_filter.1 hghost
    rw [← ghost.isSome_ownerReference?] at hidentified
    obtain ⟨owner, howner⟩ := Option.isSome_iff_exists.1 hidentified
    obtain ⟨name, bears, -, huid, rfl⟩ := Ghost.ownerReference?_eq_some_iff.1 howner
    have hbears : bears = uid := hall _ (List.mem_filterMap.2 ⟨ghost, hmem, howner⟩)
    rw [huid, hbears]
  · intro hall owner howner
    obtain ⟨ghost, hmem, howner⟩ := List.mem_filterMap.1 howner
    have hidentified : ghost.isIdentified = true := by
      rw [← ghost.isSome_ownerReference?, howner, Option.isSome_some]
    have huid := hall ghost (List.mem_filter.2 ⟨hmem, hidentified⟩)
    obtain ⟨name, bears, -, hbears, rfl⟩ := Ghost.ownerReference?_eq_some_iff.1 howner
    exact Option.some.inj (hbears.symm.trans huid)

/-- After a call that succeeds the blog is the last of the controlling owners. It is the only one
exactly if all that there were in the beginning bore its identity, and all blogs that have been set
before bear it too. -/
theorem sole_controller_iff (metadata : Metadata) (earlier : List Ghost) (ghost : Ghost)
    (hsucceeds : (ghost.tryAdopt.run ((adoptInTurn earlier).run metadata).2).1 = .ok ()) :
    let after := (ghost.tryAdopt.run ((adoptInTurn earlier).run metadata).2).2
    ∃ owner, ghost.ownerReference? = some owner ∧ owner.controller = some true ∧
      after.controllers.getLast? = some owner ∧
      (after.controllers = [owner] ↔
        (∀ reference ∈ metadata.controllers, reference.uid = owner.uid) ∧
          ∀ former ∈ adopters earlier, former.metadata.uid = some owner.uid) := by
  intro after
  have hbefore : ((adoptInTurn earlier).run metadata).2 =
      metadata.ownInTurn (earlier.filterMap Ghost.ownerReference?) := by
    rw [run_adoptInTurn]
  rw [ghost.fst_run_tryAdopt, Ghost.adoptionReply_eq_ok_iff, ← ghost.isSome_ownerReference?]
    at hsucceeds
  obtain ⟨owner, howner⟩ := Option.isSome_iff_exists.1 hsucceeds
  have hcontroller : owner.controller = some true :=
    controller_of_mem_ownerReferences (List.mem_filterMap.2 ⟨ghost, List.mem_singleton_self ghost,
      howner⟩)
  have hafter : after = (metadata.ownInTurn (earlier.filterMap Ghost.ownerReference?)).own owner := by
    change (ghost.tryAdopt.run ((adoptInTurn earlier).run metadata).2).2 = _
    rw [hbefore, ghost.snd_run_tryAdopt, howner]
    rfl
  refine ⟨owner, howner, hcontroller, ?_, ?_⟩
  · rw [hafter, Metadata.controllers_own hcontroller, List.getLast?_concat]
  · rw [hafter, Metadata.controllers_own_eq_singleton_iff hcontroller,
      Metadata.controlledBy_ownInTurn fun former ↦ controller_of_mem_ownerReferences,
      forall_ownerReferences_uid_iff]
    rfl


/-- Metadata that a blog controls, and a journal owns beside it. A blog without an identity fails,
and the blog is set, and once more under a new name. It is the only controlling owner. -/
theorem sole_controller_iff_marketing :
    let named (name : String) (uid : Option String) : Ghost := {
      metadata := { name := some name, namespaceName := some "marketing", uid }
      spec := ⟨"5", 1, false⟩ }
    let metadata : Metadata := {
      ownerReferences := some [
        { name := "blog", uid := "1", controller := some true }, { name := "journal", uid := "3" }] }
    let earlier := [named "draft" none, named "blog" (some "1")]
    let call := (named "news" (some "1")).tryAdopt.run ((adoptInTurn earlier).run metadata).2
    call.1 = .ok () ∧
      ∃ owner, owner.name = "news" ∧ owner.controller = some true ∧
        call.2.controllers = [owner] := by
  intro named metadata earlier call
  obtain ⟨owner, howner, hcontroller, -, hsole⟩ :=
    sole_controller_iff metadata earlier (named "news" (some "1")) rfl
  cases howner
  exact ⟨rfl, _, rfl, hcontroller, hsole.2 (by decide)⟩

/-- Two blogs are set one after another on metadata without owners. Both calls succeed, and then
both blogs are controlling owners. -/
theorem second_controller_stays :
    let named (name uid : String) : Ghost := {
      metadata := { name := some name, namespaceName := some "marketing", uid := some uid }
      spec := ⟨"5", 1, false⟩ }
    let first := (named "blog" "1").tryAdopt.run {}
    let second := (named "shop" "2").tryAdopt.run first.2
    ({} : Metadata).controllers = [] ∧
      first.1 = .ok () ∧ first.2.controllers.map OwnerReference.name = ["blog"] ∧
      second.1 = .ok () ∧ second.2.controllers.map OwnerReference.name = ["blog", "shop"] := by
  intro named first second
  exact ⟨rfl, rfl, rfl, rfl, rfl⟩

end BlogOperator
