import BlogOperator.Proofs.LostUpdates
import Mathlib.Data.List.Induction

/-!
# Where children come from

Nobody but the rounds writes children. A child that is there after an event was then there before
it with the same owners, or a round has just created it (`Traffic.Vouched.owners_undergo`): what
takes the place of a deployment is the very deployment that is there, with another specification.

So each child that is there at the end of a history has been made by one round, by the step before
which it was not there and after which it has always been there (`Traffic.MadeBy`). It has one
owner, and that is the blog that this round has read (`Traffic.owned_through`).
-/

set_option autoImplicit false

namespace BlogOperator

open BlogOperator.Kubernetes BlogOperator.Time

/-! ### Children after an operation -/

namespace Memory

variable {memory : Memory}

/-- Operations other than writes of children put no child in place. -/
theorem child_perform {operation : Operation}
    (hothers : ∀ write, operation ≠ .call (.change write)) {kind : ChildKind} {place : Key}
    {object : kind.Object}
    (hobject : ((memory.perform operation).children.shelf kind).find? place = some object) :
    (memory.children.shelf kind).find? place = some object := by
  cases operation with
  | apply ghost => exact hobject
  | edit key change =>
    simp only [perform, edit?] at hobject
    cases hghost : memory.ghosts.find? key with
    | none =>
      rw [hghost] at hobject
      exact hobject
    | some ghost =>
      rw [hghost] at hobject
      exact hobject
  | delete key => exact hobject
  | collectGarbage => exact find?_collectGarbage hobject
  | setFault name message => exact hobject
  | call request =>
    have hother (write : Write) : request ≠ .change write := by
      rintro rfl
      exact hothers write rfl
    change ((memory.answer request).2.children.shelf kind).find? place = some object at hobject
    rw [memory.children_answer hother] at hobject
    exact hobject

/-- What is found after a child has been put in place was there before, or it is this child. -/
theorem find?_storeChild {kind other : ChildKind} {key place : Key} {desired : kind.Object}
    {object : other.Object}
    (hobject : ((memory.storeChild kind key desired).children.shelf other).find? place =
      some object) :
    (memory.children.shelf other).find? place = some object ∨
      (other = kind ∧ place = key ∧
        other.metadata object = stamp (memory.version + 1) (kind.metadata desired)) := by
  unfold storeChild at hobject
  by_cases hkind : other = kind
  · subst hkind
    dsimp only at hobject
    rw [Children.shelf_withShelf_self, Shelf.find?_insert] at hobject
    by_cases hplace : place = key
    · rw [if_pos hplace] at hobject
      cases hobject
      exact .inr ⟨rfl, hplace, other.metadata_withMetadata _ _⟩
    · rw [if_neg hplace] at hobject
      exact .inl hobject
  · dsimp only at hobject
    rw [Children.shelf_withShelf_of_ne _ hkind] at hobject
    exact .inl hobject

/-- Where a child comes from that is there after a write: it was there before, or it has been
created where there was none, or it has taken the place of a deployment. -/
theorem child_serveWrite {write : Write} {kind : ChildKind} {place : Key} {object : kind.Object}
    (hobject : ((memory.serveWrite write).2.children.shelf kind).find? place = some object) :
    (memory.children.shelf kind).find? place = some object ∨
      (∃ desired : kind.Object, write = .create kind desired ∧
        place = Key.ofMetadata (kind.metadata desired) ∧
        (memory.children.shelf kind).find? place = none ∧
        kind.metadata object = stamp (memory.version + 1) (kind.metadata desired)) ∨
      ∃ deployment, write = .replace deployment ∧ kind = .deployment ∧
        place = Key.ofMetadata deployment.metadata ∧
        (memory.serveWrite (.replace deployment)).1 = .ok () ∧
        kind.metadata object = stamp (memory.version + 1) deployment.metadata := by
  cases write with
  | create other desired =>
    unfold serveWrite at hobject
    dsimp only at hobject
    cases hstored : (memory.children.shelf other).find?
        (Key.ofMetadata (other.metadata desired)) with
    | some stored =>
      rw [hstored] at hobject
      exact .inl hobject
    | none =>
      rw [hstored] at hobject
      rcases find?_storeChild hobject with hold | ⟨rfl, rfl, hmetadata⟩
      · exact .inl hold
      · exact .inr (.inl ⟨desired, rfl, rfl, hstored, hmetadata⟩)
  | replace deployment =>
    unfold serveWrite at hobject ⊢
    dsimp only at hobject ⊢
    cases hstored : memory.children.deployments.find? (Key.ofMetadata deployment.metadata) with
    | none =>
      rw [hstored] at hobject
      exact .inl hobject
    | some stored =>
      rw [hstored] at hobject
      dsimp only at hobject
      by_cases hsame : stored.metadata.resourceVersion = deployment.metadata.resourceVersion
      · rw [if_pos hsame] at hobject
        rcases find?_storeChild hobject with hold | ⟨rfl, rfl, hmetadata⟩
        · exact .inl hold
        · refine .inr (.inr ⟨deployment, rfl, rfl, rfl, ?_, hmetadata⟩)
          rw [hstored]
          exact congrArg Prod.fst (if_pos hsame)
      · rw [if_neg hsame] at hobject
        exact .inl hobject
  | remove key =>
    unfold serveWrite at hobject
    dsimp only at hobject
    cases hstored : memory.children.ingresses.find? key with
    | none =>
      rw [hstored] at hobject
      exact .inl hobject
    | some stored =>
      rw [hstored] at hobject
      dsimp only at hobject
      by_cases hkind : kind = .ingress
      · subst hkind
        rw [Children.shelf_withShelf_self, Shelf.find?_erase] at hobject
        split at hobject
        · cases hobject
        · exact .inl hobject
      · rw [Children.shelf_withShelf_of_ne _ hkind] at hobject
        exact .inl hobject

/-- Where a child comes from that is there after a call. -/
theorem child_answer {request : Call} {kind : ChildKind} {place : Key} {object : kind.Object}
    (hobject : ((memory.answer request).2.children.shelf kind).find? place = some object) :
    (memory.children.shelf kind).find? place = some object ∨
      (∃ desired : kind.Object, request = .change (.create kind desired) ∧
        place = Key.ofMetadata (kind.metadata desired) ∧
        (memory.children.shelf kind).find? place = none ∧
        kind.metadata object = stamp (memory.version + 1) (kind.metadata desired)) ∨
      ∃ deployment, request = .change (.replace deployment) ∧ kind = .deployment ∧
        place = Key.ofMetadata deployment.metadata ∧
        (memory.answer (.change (.replace deployment))).1 = .ok () ∧
        kind.metadata object = stamp (memory.version + 1) deployment.metadata := by
  by_cases hwrite : ∃ write, request = .change write
  · obtain ⟨write, rfl⟩ := hwrite
    cases hfault : memory.faults (Call.change write).name with
    | some message =>
      simp only [answer, hfault] at hobject
      exact .inl hobject
    | none =>
      simp only [answer, hfault, serve] at hobject
      rcases child_serveWrite hobject with
        hold | ⟨desired, rfl, hcreated⟩ | ⟨deployment, rfl, hkind, hplace, haccepted, hmetadata⟩
      · exact .inl hold
      · exact .inr (.inl ⟨desired, rfl, hcreated⟩)
      · refine .inr (.inr ⟨deployment, rfl, hkind, hplace, ?_, hmetadata⟩)
        simp only [answer, hfault, serve]
        exact haccepted
  · rw [memory.children_answer fun write hrequest ↦ hwrite ⟨write, hrequest⟩] at hobject
    exact .inl hobject

end Memory

/-! ### Children after an event -/

/-- A child that a blog wants created has the blog for its owner. -/
theorem Ghost.Wants.owner_of_create {ghost : Ghost} {team : String} {kind : ChildKind}
    {live : Option kind.Object} {desired : kind.Object}
    (hwants : ghost.Wants team kind live (.create kind desired)) :
    ∃ owner, ghost.ownerReference? = some owner ∧ desired = ghost.childOf owner kind := by
  cases hwants with
  | creation howner hwanted => exact ⟨_, howner, rfl⟩

/-- What metadata say when the blog that a round has read is the one owner. -/
def Underway.Owns {α : Type} (key : Key) (underway : Underway α) (metadata : Metadata) : Prop :=
  ∃ ghost owner, BeganWith key ghost underway.exchanges ∧ ghost.ownerReference? = some owner ∧
    metadata.ownerReferences = some [owner]

namespace Traffic

section Exchanges

variable {ι α : Type} [DecidableEq ι] {traffic : Traffic ι α}

/-- The owner of an object stays the blog that a round has read. -/
theorem owns_undergo {key : Key} {index : ι} {metadata : Metadata}
    (howns : (traffic.passes index).Owns key metadata) (event : Event ι) :
    ((traffic.undergo event).passes index).Owns key metadata := by
  obtain ⟨ghost, owner, hbegan, howner, hreferences⟩ := howns
  obtain ⟨later, hlater⟩ := traffic.exchanges_prefix_undergo event index
  refine ⟨ghost, owner, ?_, howner, hreferences⟩
  rw [← hlater]
  exact hbegan.append later

end Exchanges

variable {ι : Type} [DecidableEq ι] {keys : ι → Key} {times : ι → Instant}
  {traffic : Traffic ι (Except Failure Unit)}

/-- Where a child comes from that is there after an event: it was there before with the same owners,
or a round has just created it for the blog that it has read. -/
theorem Vouched.owners_undergo (hvouched : traffic.Vouched) (hregular : traffic.Regular keys times)
    {event : Event ι} (hothers : ∀ write, event ≠ .operation (.call (.change write)))
    {kind : ChildKind} {place : Key} {object : kind.Object}
    (hobject : ((traffic.undergo event).memory.children.shelf kind).find? place = some object) :
    (∃ before, (traffic.memory.children.shelf kind).find? place = some before ∧
        (kind.metadata object).ownerReferences = (kind.metadata before).ownerReferences) ∨
      ((traffic.memory.children.shelf kind).find? place = none ∧
        ∃ index, event = .step index ∧
          place = ⟨(keys index).namespaceName, kind.childName (keys index).namespaceName⟩ ∧
          (traffic.passes index).Owns (keys index) (kind.metadata object)) := by
  rcases traffic.memory_undergo event with
    hmemory | ⟨operation, rfl, hmemory⟩ | ⟨index, request, rfl, hrequest, hmemory⟩
  · rw [hmemory] at hobject
    exact .inl ⟨object, hobject, rfl⟩
  · rw [hmemory] at hobject
    exact .inl ⟨object, Memory.child_perform (fun write hcall ↦ hothers write (hcall ▸ rfl))
      hobject, rfl⟩
  · rw [hmemory] at hobject
    rcases Memory.child_answer hobject with
      hold | ⟨desired, rfl, hplace, hnone, hmetadata⟩ |
        ⟨deployment, rfl, rfl, hplace, haccepted, hmetadata⟩
    · exact .inl ⟨object, hold, rfl⟩
    · obtain ⟨ghost, live, hbegan, -, hwants⟩ := (hregular.grounded index).request hrequest
      have hteam : ghost.team = (keys index).namespaceName :=
        congrArg Key.namespaceName (hregular.credible hbegan.mem ghost rfl)
      obtain ⟨owner, howner, rfl⟩ : ∃ owner, ghost.ownerReference? = some owner ∧
          desired = ghost.childOf owner kind := Ghost.Wants.owner_of_create hwants
      refine .inr ⟨hnone, index, rfl, ?_, ghost, owner, hbegan, howner, ?_⟩
      · rw [hplace, Ghost.metadata_childOf, hteam]
        rfl
      · rw [hmetadata, Ghost.metadata_childOf]
        rfl
    · obtain ⟨live, hlast, hdeployment, haccepts⟩ := hvouched.replacement hregular hrequest
      have hlive := (haccepts.1 haccepted).2
      have hkey : Key.ofMetadata live.metadata = ⟨(keys index).namespaceName,
          ChildKind.deployment.childName (keys index).namespaceName⟩ :=
        hregular.credible (List.mem_of_getLast? hlast) live rfl
      have hsame : deployment.metadata = live.metadata := by rw [hdeployment]
      rw [hsame] at hplace hmetadata
      rw [← hkey, ← hplace] at hlive
      refine .inl ⟨live, hlive, ?_⟩
      rw [hmetadata]
      rfl

/-! ### Children after a history -/

/-- A round has made the child of a kind under a key in a history: the child was not there before a
step of the round, and it has been there ever since. -/
def MadeBy {α : Type} (traffic : Traffic ι α) (history : List (Event ι)) (kind : ChildKind)
    (place : Key) (index : ι) : Prop :=
  ∃ past rest, history = past ++ .step index :: rest ∧
    ((traffic.through past).memory.children.shelf kind).find? place = none ∧
    (traffic.through (past ++ [.step index])).Throughout rest fun memory ↦
      (memory.children.shelf kind).find? place ≠ none

section MadeBy

variable {α : Type} {traffic : Traffic ι α} {history : List (Event ι)} {kind : ChildKind}
  {place : Key} {index : ι}

/-- A child that was not there before the last step has been made by that step. -/
theorem madeBy_last
    (hbefore : ((traffic.through history).memory.children.shelf kind).find? place = none)
    (hafter : ((traffic.through (history ++ [.step index])).memory.children.shelf kind).find?
      place ≠ none) : traffic.MadeBy (history ++ [.step index]) kind place index := by
  refine ⟨history, [], rfl, hbefore, fun past hpast ↦ ?_⟩
  rw [List.prefix_nil.1 hpast]
  exact hafter

/-- A child that is still there has been made by the same round. -/
theorem MadeBy.concat (hmade : traffic.MadeBy history kind place index) {event : Event ι}
    (hafter : ((traffic.through (history ++ [event])).memory.children.shelf kind).find?
      place ≠ none) : traffic.MadeBy (history ++ [event]) kind place index := by
  obtain ⟨past, rest, rfl, hbefore, hsince⟩ := hmade
  refine ⟨past, rest ++ [event], by simp, hbefore, fun between hbetween ↦ ?_⟩
  rcases List.prefix_concat_iff.1 hbetween with rfl | hrest
  · rw [← through_append]
    simpa using hafter
  · exact hsince between hrest

end MadeBy

/-- When nobody but the rounds writes children, each child has one owner: the blog that the round
has read which has made the child. -/
theorem owned_through {history : List (Event ι)}
    (hothers : ∀ write, .operation (.call (.change write)) ∉ history)
    (hfew : (ofRounds {} keys times).bumps history < UInt64.size) {kind : ChildKind} {place : Key}
    {object : kind.Object}
    (hobject : (((ofRounds {} keys times).through history).memory.children.shelf kind).find? place =
      some object) :
    ∃ index, (ofRounds {} keys times).MadeBy history kind place index ∧
      place = ⟨(keys index).namespaceName, kind.childName (keys index).namespaceName⟩ ∧
      (((ofRounds {} keys times).through history).passes index).Owns (keys index)
        (kind.metadata object) := by
  induction history using List.reverseRecOn generalizing object with
  | nil => cases kind <;> cases hobject
  | append_singleton past event ih =>
    have hpast : past <+: past ++ [event] := List.prefix_append past [event]
    have hless := Nat.lt_of_le_of_lt ((ofRounds {} keys times).bumps_mono hpast) hfew
    have hregular := (regular_ofRounds .empty keys times).through past
    have hvouched := Vouched.ofRounds hless
    have hthere : (((ofRounds {} keys times).through (past ++ [event])).memory.children.shelf
        kind).find? place ≠ none := by
      rw [hobject]
      exact Option.some_ne_none object
    rw [through_concat] at hobject ⊢
    have hevent (write : Write) : event ≠ .operation (.call (.change write)) := by
      rintro rfl
      exact hothers write (by simp)
    rcases hvouched.owners_undergo hregular hevent hobject with
      ⟨before, hbefore, hsame⟩ | ⟨hnone, index, rfl, hplace, howns⟩
    · obtain ⟨index, hmade, hplace, howns⟩ :=
        ih (fun write hwrite ↦ hothers write (List.mem_append_left _ hwrite)) hless hbefore
      refine ⟨index, hmade.concat hthere, hplace, owns_undergo ?_ event⟩
      unfold Underway.Owns at howns ⊢
      rw [hsame]
      exact howns
    · exact ⟨index, madeBy_last hnone hthere, hplace, owns_undergo howns (.step index)⟩

end Traffic

end BlogOperator
