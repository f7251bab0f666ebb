import BlogOperator.Proofs.History
import BlogOperator.Proofs.Provenance
import BlogOperator.Proofs.Versions

/-!
# What a round leaves does not depend on the past

Suppose that nobody but rounds writes children in a namespace, and that there are only blogs of one
name and one identity in it, at whatever times and with whatever specifications. Then all children
in the namespace are `TeamView.Homemade`, and so are those that some round has found there and may
still go by (`Traffic.Domestic`): no event changes that (`Traffic.Domestic.undergo`). Rounds may
have read the blog long ago, they may fail or be dropped, and garbage may be collected in between.

One complete round then leaves what the blog has ordered and nothing else
(`TeamView.Completed.children_of_homemade`), which is what it leaves for the same blog in a new
cluster (`history_independent`).
-/

set_option autoImplicit false

namespace BlogOperator

open BlogOperator.Kubernetes BlogOperator.Time

/-! ### Homemade children -/

/-- All children in the namespace of a key were made for a blog with the key and an identity. -/
def TeamView.Homemade (key : Key) (uid : String) (view : TeamView) : Prop :=
  ∀ (kind : ChildKind) (name : String) (object : kind.Object),
    view.children kind name = some object →
      name = kind.childName key.namespaceName ∧ kind.Made key uid object

namespace TeamView.Homemade

variable {key : Key} {uid : String} {view : TeamView}

/-- A write of a child that was made keeps the children homemade. -/
theorem written (hhomemade : view.Homemade key uid) {write : Write}
    (hname : write.key.name = write.kind.childName key.namespaceName) {version : UInt64}
    (hmade : ∀ {object}, write.left? version = some object → write.kind.Made key uid object) :
    (view.written version write).Homemade key uid := by
  intro kind name object hobject
  by_cases hplace : kind ≠ write.kind ∨ name ≠ write.key.name
  · rw [children_written_of_ne _ _ _ hplace] at hobject
    exact hhomemade kind name object hobject
  · obtain ⟨rfl, rfl⟩ : kind = write.kind ∧ name = write.key.name := by simpa using hplace
    rw [children_written_self] at hobject
    exact ⟨hname, hmade hobject⟩

/-- A call to write a child that was made keeps the children homemade, accepted or not. -/
theorem answer (hhomemade : view.Homemade key uid) {write : Write}
    (hname : write.key.name = write.kind.childName key.namespaceName) {version : UInt64}
    (hmade : ∀ {object}, write.left? version = some object → write.kind.Made key uid object) :
    (view.answer version (.change write)).2.Homemade key uid := by
  unfold TeamView.answer
  cases view.faults (Call.change write).name with
  | some message => exact hhomemade
  | none =>
    change (view.serveWrite version write).2.Homemade key uid
    rcases TeamView.serveWrite_cases version write view with hwritten | hkept
    · rw [hwritten]
      exact hhomemade.written hname hmade
    · rw [hkept]
      exact hhomemade

end TeamView.Homemade

/-! ### What others do -/

namespace Memory

variable {memory : Memory} {key : Key} {uid : String}

/-- Whether the children are homemade is a matter of the children alone. -/
theorem homemade_of_children {other : Memory} (hchildren : other.children = memory.children)
    (hhomemade : (memory.view key.namespaceName).Homemade key uid) :
    (other.view key.namespaceName).Homemade key uid := by
  intro kind name object hobject
  unfold view at hobject
  dsimp only at hobject
  rw [hchildren] at hobject
  exact hhomemade kind name object hobject

/-- Whatever others do keeps the children homemade, as long as they do not write children
themselves. -/
theorem homemade_perform (hhomemade : (memory.view key.namespaceName).Homemade key uid)
    {operation : Operation}
    (hothers : ∀ write, operation = .call (.change write) →
      write.key.namespaceName ≠ key.namespaceName) :
    ((memory.perform operation).view key.namespaceName).Homemade key uid := by
  cases operation with
  | apply ghost => exact hhomemade
  | edit place change =>
    change (((memory.edit? place change).getD memory).view key.namespaceName).Homemade key uid
    unfold edit?
    cases memory.ghosts.find? place with
    | none => exact hhomemade
    | some ghost => exact hhomemade
  | delete place => exact hhomemade
  | collectGarbage =>
    exact fun kind name object hobject ↦ hhomemade kind name object (find?_collectGarbage hobject)
  | setFault name message => exact hhomemade
  | call request =>
    by_cases hwrite : ∃ write, request = .change write
    · obtain ⟨write, rfl⟩ := hwrite
      have hview : (memory.answer (.change write)).2.view key.namespaceName =
          memory.view key.namespaceName := memory.view_answer_of_ne (hothers write rfl).symm
      change ((memory.answer (.change write)).2.view key.namespaceName).Homemade key uid
      rw [hview]
      exact hhomemade
    · exact homemade_of_children
        (memory.children_answer fun write hrequest ↦ hwrite ⟨write, hrequest⟩) hhomemade

/-- A cluster in which there is at most one blog in the namespace of a key: one with the name of the
key, and with an identity. -/
def LoneBlog (key : Key) (uid : String) (memory : Memory) : Prop :=
  ∀ (place : Key) (ghost : Ghost), memory.ghosts.find? place = some ghost →
    place.namespaceName = key.namespaceName →
      place.name = key.name ∧ ghost.metadata.uid = some uid

theorem loneBlog_iff :
    memory.LoneBlog key uid ↔ ∀ entry ∈ memory.ghosts.entries,
      entry.1.namespaceName = key.namespaceName →
        entry.1.name = key.name ∧ entry.2.metadata.uid = some uid :=
  ⟨fun hlone entry hentry ↦ hlone entry.1 entry.2 (Shelf.mem_entries_iff.1 hentry),
    fun hentries place ghost hghost ↦ hentries (place, ghost) (Shelf.mem_entries_iff.2 hghost)⟩

instance : Decidable (memory.LoneBlog key uid) :=
  decidable_of_iff _ loneBlog_iff.symm

theorem LoneBlog.bears (hlone : memory.LoneBlog key uid) (horderly : memory.Orderly) {place : Key}
    {ghost : Ghost} (hghost : memory.ghosts.find? place = some ghost)
    (hplace : place.namespaceName = key.namespaceName) : ghost.Bears key uid := by
  obtain ⟨hname, huid⟩ := hlone place ghost hghost hplace
  refine ⟨?_, huid⟩
  rw [horderly.ghosts_filed hghost]
  exact Key.mk_eq_iff.2 ⟨hplace, hname⟩

end Memory

/-! ### What rounds do -/

namespace Traffic

variable {ι : Type} [DecidableEq ι] {key : Key} {uid : String} {keys : ι → Key}
  {times : ι → Instant} {traffic : Traffic ι (Except Failure Unit)}

/-- Traffic in which all children in the namespace of a key are homemade, those included that some
pass has found, and all blogs that have been read there bear the key and an identity. -/
structure Domestic (key : Key) (uid : String) (traffic : Traffic ι (Except Failure Unit)) :
    Prop where
  children : (traffic.memory.view key.namespaceName).Homemade key uid
  read : ∀ {index place ghost},
    ⟨.readGhost place, .ok (some ghost)⟩ ∈ (traffic.passes index).exchanges →
      place.namespaceName = key.namespaceName → ghost.Bears key uid
  found : ∀ {index place} {kind : ChildKind} {object : kind.Object},
    ⟨.find kind place, .ok (some object)⟩ ∈ (traffic.passes index).exchanges →
      place.namespaceName = key.namespaceName → kind.Made key uid object

omit [DecidableEq ι] in
theorem domestic_ofRounds (key : Key) (uid : String) (keys : ι → Key) (times : ι → Instant) :
    (ofRounds {} keys times).Domestic key uid where
  children kind name object hobject := by cases kind <;> cases hobject
  read hexchange := by cases hexchange
  found hexchange := by cases hexchange

omit [DecidableEq ι] in
/-- A write that a round in the namespace is about to make is of the child of its kind there. -/
theorem Domestic.key_of_write (hdomestic : traffic.Domestic key uid)
    (hregular : traffic.Regular keys times) {index : ι} {write : Write}
    (hrequest : (traffic.passes index).rest.request? = some (.change write))
    (hspace : (keys index).namespaceName = key.namespaceName) :
    write.key = ⟨key.namespaceName, write.kind.childName key.namespaceName⟩ := by
  obtain ⟨ghost, live, hbegan, hlast, hwants⟩ := (hregular.grounded index).request hrequest
  have hfind := List.mem_of_getLast? hlast
  have hbears := hdomestic.read hbegan.mem hspace
  rw [← hspace]
  exact hwants.key_eq (hbears.team_eq.trans hspace.symm) fun object hobject ↦
    hregular.credible hfind object (congrArg Except.ok hobject)

omit [DecidableEq ι] in
/-- A call that a round is about to make keeps the children homemade. -/
theorem Domestic.homemade_answer (hdomestic : traffic.Domestic key uid)
    (hregular : traffic.Regular keys times) {index : ι} {request : Call}
    (hrequest : (traffic.passes index).rest.request? = some request) :
    ((traffic.memory.answer request).2.view key.namespaceName).Homemade key uid := by
  have hteam := (hregular.confined index).request hrequest
  by_cases hhere : key.namespaceName = request.team
  · by_cases hwrite : ∃ write, request = .change write
    · obtain ⟨write, rfl⟩ := hwrite
      obtain ⟨ghost, live, hbegan, hlast, hwants⟩ := (hregular.grounded index).request hrequest
      have hspace : (keys index).namespaceName = key.namespaceName := hteam.symm.trans hhere.symm
      have hfind := List.mem_of_getLast? hlast
      have hbears := hdomestic.read hbegan.mem hspace
      have hlive (object : write.kind.Object) (hobject : live = some object) :
          write.kind.Made key uid object := by
        subst hobject
        exact hdomestic.found hfind hspace
      have hname : write.key.name = write.kind.childName key.namespaceName :=
        congrArg Key.name (hdomestic.key_of_write hregular hrequest hspace)
      have hview := congrArg Prod.snd (traffic.memory.view_answer (.change write))
      dsimp only at hview
      rw [← hhere] at hview
      rw [hview]
      exact hdomestic.children.answer hname fun hleft ↦ hwants.made hbears hlive hleft
    · have hchildren := traffic.memory.children_answer fun write hother ↦ hwrite ⟨write, hother⟩
      exact Memory.homemade_of_children hchildren hdomestic.children
  · rw [traffic.memory.view_answer_of_ne hhere]
    exact hdomestic.children

/-- Traffic stays domestic whatever happens, as long as there is at most the one blog and nobody but
rounds writes children. -/
theorem Domestic.undergo (hdomestic : traffic.Domestic key uid)
    (hregular : traffic.Regular keys times) (hlone : traffic.memory.LoneBlog key uid)
    {event : Event ι}
    (hothers : ∀ write, event = .operation (.call (.change write)) →
      write.key.namespaceName ≠ key.namespaceName) :
    (traffic.undergo event).Domestic key uid where
  children := by
    rcases traffic.memory_undergo event with
      hmemory | ⟨operation, hevent, hmemory⟩ | ⟨index, request, -, hrequest, hmemory⟩
    · rw [hmemory]
      exact hdomestic.children
    · rw [hmemory]
      refine Memory.homemade_perform hdomestic.children fun write hoperation ↦ ?_
      subst hoperation
      exact hothers write hevent
    · rw [hmemory]
      exact hdomestic.homemade_answer hregular hrequest
  read {index place ghost} hexchange hplace := by
    rcases mem_exchanges_undergo hexchange with hold | ⟨-, request, -, hnew⟩
    · exact hdomestic.read hold hplace
    · have hfinds := Exchange.Finds.ghost place ghost
      rw [hnew] at hfinds
      exact hlone.bears hregular.reachable.orderly (hfinds.find? rfl) hplace
  found {index place kind object} hexchange hplace := by
    rcases mem_exchanges_undergo hexchange with hold | ⟨-, request, -, hnew⟩
    · exact hdomestic.found hold hplace
    · have hfinds := Exchange.Finds.child kind place object
      rw [hnew] at hfinds
      have hobject : (traffic.memory.view place.namespaceName).children kind place.name =
        some object := hfinds.find? rfl
      rw [hplace] at hobject
      exact (hdomestic.children kind place.name object hobject).2

/-- Traffic stays domestic through a history. -/
theorem Domestic.through (hdomestic : traffic.Domestic key uid)
    (hregular : traffic.Regular keys times) {history : List (Event ι)}
    (hlone : traffic.Throughout history (Memory.LoneBlog key uid))
    (hothers : ∀ write, Event.operation (.call (.change write)) ∈ history →
      write.key.namespaceName ≠ key.namespaceName) :
    (traffic.through history).Domestic key uid := by
  induction history generalizing traffic with
  | nil => exact hdomestic
  | cons event history ih =>
    have hnext := hdomestic.undergo hregular hlone.start fun write hevent ↦
      hothers write (hevent ▸ List.mem_cons_self)
    exact ih hnext (hregular.undergo event) hlone.rest fun write hwrite ↦
      hothers write (List.mem_cons_of_mem event hwrite)

end Traffic

/-! ### What a complete round leaves -/

/-- A complete round for a blog with homemade children leaves what the blog has ordered, and nothing
else. -/
theorem TeamView.Completed.children_of_homemade {key : Key} {uid : String} {ghost : Ghost}
    {owner : OwnerReference} {before after : TeamView}
    (hcompleted : before.Completed key ghost after) (hhomemade : before.Homemade key uid)
    (hbears : ghost.Bears key uid) (howner : ghost.ownerReference? = some owner)
    (kind : ChildKind) (name : String) :
    after.unversioned.children kind name =
      if name = kind.childName key.namespaceName then ghost.ordered owner kind else none := by
  change (after.children kind name).map kind.unversioned = _
  split
  · rename_i hname
    subst hname
    exact (hcompleted.child kind).eq_ordered hbears howner fun object hobject ↦
      (hhomemade kind _ object hobject).2
  · rename_i hname
    rw [hcompleted.elsewhere kind name hname, Option.map_eq_none_iff]
    by_contra hsome
    obtain ⟨object, hobject⟩ := Option.ne_none_iff_exists'.1 hsome
    exact hname (hhomemade kind name object hobject).1

/-- A blog with an identity, put into a new cluster, keeps its key, its identity, its name and its
specification. There are no children in the cluster. -/
theorem Memory.perform_apply_empty {key : Key} {uid : String} {ghost : Ghost}
    (hbears : ghost.Bears key uid) :
    let memory := ({} : Memory).perform (.apply ghost)
    (∃ copy : Ghost, memory.ghosts.find? key = some copy ∧ copy.Bears key uid ∧
        copy.metadata.name = ghost.metadata.name ∧ copy.spec = ghost.spec) ∧
      (memory.view key.namespaceName).Homemade key uid := by
  intro memory
  let copy : Ghost :=
    { ghost with metadata := stamp 1 { ghost.metadata with uid := some uid } }
  have hcopy : memory.ghosts.find? key = some copy := by
    change (Shelf.empty.insert (Key.ofMetadata ghost.metadata) _).find? key = _
    rw [hbears.key_eq, Shelf.find?_insert, if_pos rfl]
    unfold admitted
    rw [hbears.uid_eq]
    rfl
  refine ⟨⟨copy, hcopy, ⟨hbears.key_eq, rfl⟩, rfl, rfl⟩, fun kind name object hobject ↦ ?_⟩
  cases kind <;> cases hobject

/-- When nobody but rounds writes children in the namespace of a blog, and there has never been
another blog in it, nor this one with another identity, the past does not show: after any history a
complete round leaves just the children, versions apart, that it leaves for the same blog in a new
cluster. -/
theorem history_independent {ι : Type} [DecidableEq ι] (keys : ι → Key) (times : ι → Instant)
    {history : List (Traffic.Event ι)} {key : Key} {uid : String}
    (hothers : ∀ write, Traffic.Event.operation (.call (.change write)) ∈ history →
      write.key.namespaceName ≠ key.namespaceName)
    (hlone : (Traffic.ofRounds {} keys times).Throughout history (Memory.LoneBlog key uid))
    {ghost : Ghost}
    (hghost : ((Traffic.ofRounds {} keys times).through history).memory.ghosts.find? key =
      some ghost)
    {name : String} (hname : ghost.metadata.name = some name) (now anytime : Instant) :
    let memory := ((Traffic.ofRounds {} keys times).through history).memory
    let last := (reconcile key now).run Memory.environment memory.healed
    let fresh := (reconcile key anytime).run Memory.environment
      (({} : Memory).perform (.apply ghost))
    last.result = .ok () ∧ fresh.result = .ok () ∧
      (last.state.view key.namespaceName).unversioned.children =
        (fresh.state.view key.namespaceName).unversioned.children := by
  intro memory last fresh
  have hregular := Traffic.regular_ofRounds .empty keys times
  have hdomestic :=
    (Traffic.domestic_ofRounds key uid keys times).through hregular hlone hothers
  have horderly := (hregular.through history).reachable.orderly
  have hbears : ghost.Bears key uid :=
    Memory.LoneBlog.bears (hlone history List.prefix_rfl) horderly hghost rfl
  obtain ⟨owner, howner⟩ := ghost.exists_ownerReference hname hbears.uid_eq
  obtain ⟨hresult, hlast⟩ := horderly.completed_reconcile hghost hname now
  -- The other round is made in a new cluster.
  have hnew : (({} : Memory).perform (.apply ghost)).Orderly := Memory.orderly_empty.perform _
  obtain ⟨⟨copy, hcopy, hbears', hname', hspec⟩, hempty⟩ := Memory.perform_apply_empty hbears
  rw [hname] at hname'
  obtain ⟨owner', howner'⟩ := copy.exists_ownerReference hname' hbears'.uid_eq
  obtain ⟨hresult', hfresh⟩ := hnew.completed_reconcile hcopy hname' anytime
  refine ⟨hresult, hresult', ?_⟩
  funext kind place
  calc (last.state.view key.namespaceName).unversioned.children kind place
      = if place = kind.childName key.namespaceName then ghost.ordered owner kind else none :=
        hlast.children_of_homemade hdomestic.children hbears howner kind place
    _ = if place = kind.childName key.namespaceName then copy.ordered owner' kind else none := by
        rw [hbears.ordered_eq howner hbears' howner' hspec.symm]
    _ = (fresh.state.view key.namespaceName).unversioned.children kind place :=
        (hfresh.children_of_homemade hempty hbears' howner' kind place).symm

/-- While a round is being made the blog gets another image, another pod and no ingress. The round
goes on with what it has read, creates all the children, and is dropped. The blog is deleted, and
applied again before the children are removed. -/
theorem history_independent_marketing :
    let key : Key := ⟨"marketing", "blog"⟩
    let blog (spec : GhostSpec) : Ghost := {
      metadata := { name := some "blog", namespaceName := some "marketing" }
      spec }
    let history : List (Traffic.Event Unit) :=
      [.operation (.apply (blog ⟨"4", 1, true⟩))] ++ List.replicate 6 (.step ()) ++
        [.operation (.edit key fun _ ↦ ⟨"5", 2, false⟩)] ++ List.replicate 10 (.step ()) ++
        [.operation (.delete key), .operation (.apply (blog ⟨"5", 2, false⟩))]
    let memory := ((Traffic.ofRounds {} (fun _ ↦ key) fun _ ↦ .epoch).through history).memory
    let last := (reconcile key .epoch).run Memory.environment memory.healed
    memory.children.size = 4 ∧
      ∃ ghost, memory.ghosts.find? key = some ghost ∧ last.result = .ok () ∧
        (last.state.view key.namespaceName).unversioned.children =
          (((reconcile key .epoch).run Memory.environment
            (({} : Memory).perform (.apply ghost))).state.view
              key.namespaceName).unversioned.children := by
  intro key blog history memory last
  have hothers (write : Write)
      (hwrite : Traffic.Event.operation (.call (.change write)) ∈ history) :
      write.key.namespaceName ≠ key.namespaceName := by
    simp [history] at hwrite
  have hlone : (Traffic.ofRounds {} (fun _ ↦ key) fun _ ↦ .epoch).Throughout history
      (Memory.LoneBlog key "uid-marketing-blog") := by
    decide +kernel
  dsimp only [last, memory, history, blog, key] at hothers hlone ⊢
  obtain ⟨hresult, -, hchildren⟩ :=
    history_independent (fun _ ↦ _) (fun _ ↦ .epoch) hothers hlone rfl rfl .epoch .epoch
  exact ⟨by decide +kernel, _, rfl, hresult, hchildren⟩

end BlogOperator
