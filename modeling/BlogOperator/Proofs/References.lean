import BlogOperator.Proofs.HistoryIndependence
import BlogOperator.Proofs.OwnerCascade
import BlogOperator.Proofs.Sequence

/-!
# References between the children of a team

The children of a team refer to each other by names, labels and ports. This module shows that no
reference is ever left without what it refers to, not even in the middle of a round or after rounds
that have failed or have been dropped: `Memory.Supplies` and `Memory.Routes` spell out what a
deployment and an ingress need, and `references_hold` says that they have it.

Two things come together. One is about content: all children in the namespace are homemade, so that
the names, the labels and the ports in them are those of one blog or another with the same key
(`Memory.supplies_of_homemade`, `Memory.routes_of_homemade`). The other is about presence: wherever
there is a child there are all those that precede it (`Memory.Stacked`). A round goes on to a child
only after it has seen the others in place. What it has seen may be gone by then, but only where
garbage has been collected in the meantime, since the one child that rounds remove is the ingress,
which nothing refers to. `Traffic.Founded` says that what rounds in flight have seen is still there.
Garbage collection itself takes all children of the team or none (`Memory.has_collectGarbage`).
-/

set_option autoImplicit false

namespace BlogOperator

open BlogOperator.Kubernetes BlogOperator.Time

/-! ### What children refer to -/

namespace Memory

/-- A deployment in the namespace of a team has what its pods refer to: the storage that they claim
is there, and what their containers mount are volumes that they have. -/
def Supplies (memory : Memory) (team : String) (deployment : Deployment) : Prop :=
  ∃ spec pod, deployment.spec = some spec ∧ spec.template.spec = some pod ∧
    (∃ volume ∈ pod.volumes.getD [], volume.claim.isSome) ∧
    (∀ volume ∈ pod.volumes.getD [], ∀ source, volume.claim = some source →
      ∃ claim, memory.children.volumeClaims.find? ⟨team, source.claimName⟩ = some claim) ∧
    ∀ container ∈ pod.containers, ∀ mount ∈ container.volumeMounts.getD [],
      ∃ volume ∈ pod.volumes.getD [], volume.name = mount.name

/-- There is a service of a name in the namespace of a team which exposes a port and leads to the
pods of a deployment: the port goes to a port of a container, and the service looks for the labels
that the pods have and that the deployment goes by. -/
def Serves (memory : Memory) (team name : String) (number : Int32) : Prop :=
  ∃ service serviceSpec port place deployment spec pod container listening labels,
    memory.children.services.find? ⟨team, name⟩ = some service ∧
    service.spec = some serviceSpec ∧
    port ∈ serviceSpec.ports.getD [] ∧ port.port = number ∧
    memory.children.deployments.find? ⟨team, place⟩ = some deployment ∧
    deployment.spec = some spec ∧ spec.template.spec = some pod ∧
    container ∈ pod.containers ∧ listening ∈ container.ports.getD [] ∧
    port.targetPort = some (.number listening.containerPort) ∧
    labels ≠ [] ∧ serviceSpec.selector = some labels ∧
    spec.selector.matchLabels = some labels ∧
    spec.template.metadata.bind Metadata.labels = some labels

/-- An ingress in the namespace of a team has what it routes to: it has routes, and a service stands
behind each of them. -/
def Routes (memory : Memory) (team : String) (ingress : Ingress) : Prop :=
  ∃ spec rules, ingress.spec = some spec ∧ spec.rules = some rules ∧ rules ≠ [] ∧
    ∀ rule ∈ rules, ∃ paths, rule.paths = some paths ∧ paths ≠ [] ∧
      ∀ path ∈ paths, ∃ backend number, path.backend.service = some backend ∧
        backend.port.bind BackendPort.number = some number ∧
        memory.Serves team backend.name number

/-! ### Children that are there -/

/-- The child of a kind is there for a team. -/
def Has (memory : Memory) (team : String) (kind : ChildKind) : Prop :=
  ∃ object, (memory.children.shelf kind).find? ⟨team, kind.childName team⟩ = some object

/-- Wherever there is a child of a team, there are all that precede it. -/
def Stacked (memory : Memory) (team : String) : Prop :=
  ∀ kind earlier : ChildKind, earlier.Precedes kind → memory.Has team kind → memory.Has team earlier

variable {memory : Memory} {team : String}

theorem has_congr {other : Memory}
    (hchildren : (other.view team).children = (memory.view team).children) (kind : ChildKind) :
    other.Has team kind ↔ memory.Has team kind := by
  have hfind := congrFun (congrFun hchildren kind) (kind.childName team)
  change (∃ object, (other.view team).children kind (kind.childName team) = some object) ↔ _
  rw [hfind]
  exact Iff.rfl

end Memory

/-! ### Writes of children -/

/-- A call to write a child is refused and changes nothing, or it is accepted and carried out. -/
theorem TeamView.answer_change (view : TeamView) (version : UInt64) (write : Write) :
    (∃ failure, view.answer version (.change write) = (.error failure, view)) ∨
      view.answer version (.change write) = (.ok (), view.written version write) := by
  unfold TeamView.answer
  cases view.faults (Call.change write).name with
  | some message => exact .inl ⟨_, rfl⟩
  | none =>
    cases write with
    | create kind object =>
      change (∃ failure, view.serveWrite version (.create kind object) = _) ∨
        view.serveWrite version (.create kind object) = _
      unfold serveWrite
      dsimp only
      cases view.children kind (Key.ofMetadata (kind.metadata object)).name with
      | some stored => exact .inl ⟨_, rfl⟩
      | none => exact .inr rfl
    | replace deployment =>
      change (∃ failure, view.serveWrite version (.replace deployment) = _) ∨
        view.serveWrite version (.replace deployment) = _
      unfold serveWrite
      dsimp only
      cases view.children .deployment (Key.ofMetadata deployment.metadata).name with
      | none => exact .inl ⟨_, rfl⟩
      | some stored =>
        dsimp only
        split
        · exact .inr rfl
        · exact .inl ⟨_, rfl⟩
    | remove key =>
      change (∃ failure, view.serveWrite version (.remove key) = _) ∨
        view.serveWrite version (.remove key) = _
      unfold serveWrite
      dsimp only
      cases view.children .ingress key.name with
      | none => exact .inl ⟨_, rfl⟩
      | some stored => exact .inr rfl

namespace Memory

section Change

variable {memory : Memory} {team : String} {write : Write}

/-- What a call to write a child of a team makes of what the team has. -/
theorem view_change (hplace : write.key = ⟨team, write.kind.childName team⟩) :
    (∃ failure, (memory.answer (.change write)).1 = .error failure ∧
      (memory.answer (.change write)).2.view team = memory.view team) ∨
      (memory.answer (.change write)).1 = .ok () ∧
        (memory.answer (.change write)).2.view team =
          (memory.view team).written (memory.version + 1) write := by
  have hteam : (Call.change write).team = team := congrArg Key.namespaceName hplace
  have hview := memory.view_answer (.change write)
  rw [hteam, Prod.ext_iff] at hview
  obtain ⟨hreply, hafter⟩ := hview
  dsimp only at hreply hafter
  rw [hreply, hafter]
  rcases (memory.view team).answer_change (memory.version + 1) write with
    ⟨failure, hrefused⟩ | haccepted
  · rw [hrefused]
    exact .inl ⟨failure, rfl, rfl⟩
  · rw [haccepted]
    exact .inr ⟨rfl, rfl⟩

/-- Only children of the kind that is written come or go. -/
theorem has_change_of_ne (hplace : write.key = ⟨team, write.kind.childName team⟩)
    {kind : ChildKind} (hkind : kind ≠ write.kind) :
    (memory.answer (.change write)).2.Has team kind ↔ memory.Has team kind := by
  change (∃ object, ((memory.answer (.change write)).2.view team).children kind _ = some object) ↔ _
  rcases view_change hplace with ⟨failure, -, hview⟩ | ⟨-, hview⟩
  · rw [hview]
    exact Iff.rfl
  · rw [hview, TeamView.children_written_of_ne _ _ _ (.inl hkind)]
    exact Iff.rfl

/-- No child but the ingress is ever taken away by a write. -/
theorem Has.change (hplace : write.key = ⟨team, write.kind.childName team⟩) {kind : ChildKind}
    (hkind : kind ≠ .ingress) (hhas : memory.Has team kind) :
    (memory.answer (.change write)).2.Has team kind := by
  by_cases hsame : kind = write.kind
  · subst hsame
    change ∃ object, ((memory.answer (.change write)).2.view team).children write.kind _ =
      some object
    rcases view_change hplace with ⟨failure, -, hview⟩ | ⟨-, hview⟩
    · rw [hview]
      exact hhas
    · have hname : write.key.name = write.kind.childName team := congrArg Key.name hplace
      rw [hview, ← hname, TeamView.children_written_self]
      cases write with
      | create other object => exact ⟨_, rfl⟩
      | replace deployment => exact ⟨_, rfl⟩
      | remove key => exact absurd rfl hkind
  · exact (has_change_of_ne hplace hsame).2 hhas

/-- A child whose creation has been accepted is there. -/
theorem has_create {kind : ChildKind} {object : kind.Object}
    (hplace : (Write.create kind object).key = ⟨team, kind.childName team⟩)
    (haccepted : (memory.answer (.change (.create kind object))).1 = .ok ()) :
    (memory.answer (.change (.create kind object))).2.Has team kind := by
  change ∃ stored, ((memory.answer (.change (.create kind object))).2.view team).children kind _ =
    some stored
  rcases view_change hplace with ⟨failure, hrefused, -⟩ | ⟨-, hview⟩
  · rw [hrefused] at haccepted
    cases haccepted
  · have hname : (Write.create kind object).key.name = kind.childName team :=
      congrArg Key.name hplace
    rw [hview, ← hname]
    exact ⟨_, TeamView.children_written_self _ (.create kind object) _⟩

end Change

/-! ### What others do -/

/-- Whatever others do leaves the children of a team alone, except for collecting garbage and as
long as they do not write children of the team themselves. -/
theorem children_perform (memory : Memory) {team : String} {operation : Operation}
    (hoperation : operation ≠ .collectGarbage)
    (hothers : ∀ write, operation = .call (.change write) → write.key.namespaceName ≠ team) :
    ((memory.perform operation).view team).children = (memory.view team).children := by
  cases operation with
  | apply ghost => rfl
  | edit place change =>
    change (((memory.edit? place change).getD memory).view team).children = _
    unfold edit?
    cases memory.ghosts.find? place with
    | none => rfl
    | some ghost => rfl
  | delete place => rfl
  | collectGarbage => exact absurd rfl hoperation
  | setFault name message => rfl
  | call request =>
    change ((memory.answer request).2.view team).children = _
    by_cases hwrite : ∃ write, request = .change write
    · obtain ⟨write, rfl⟩ := hwrite
      rw [memory.view_answer_of_ne (hothers write rfl).symm]
    · unfold view
      rw [memory.children_answer fun write hrequest ↦ hwrite ⟨write, hrequest⟩]

end Memory

/-! ### Garbage -/

/-- A child that was made has one owner, of the one identity. -/
theorem ChildKind.Made.owner {key : Key} {uid : String} {kind : ChildKind} {object : kind.Object}
    (hmade : kind.Made key uid object) :
    ∃ owner, (kind.metadata object).ownerReferences = some [owner] ∧ owner.uid = uid := by
  obtain ⟨blog, owner, version, hbears, howner, rfl⟩ := hmade
  have huid := (Ghost.ownerReference?_eq_some howner).1
  refine ⟨owner, ?_, Option.some.inj (huid.symm.trans hbears.uid_eq)⟩
  rw [ChildKind.metadata_stamped, Ghost.metadata_childOf]
  rfl

/-- Garbage collection takes all homemade children or none, by whether the one identity is among the
living. -/
theorem Memory.has_collectGarbage {memory : Memory} {key : Key} {uid : String}
    (hhomemade : (memory.view key.namespaceName).Homemade key uid) (kind : ChildKind) :
    memory.collectGarbage.Has key.namespaceName kind ↔
      memory.Has key.namespaceName kind ∧ uid ∈ memory.livingGhosts := by
  have hcollected {object : kind.Object}
      (hobject : (memory.children.shelf kind).find? ⟨key.namespaceName,
        kind.childName key.namespaceName⟩ = some object) :
      (memory.collectGarbage.children.shelf kind).find? ⟨key.namespaceName,
        kind.childName key.namespaceName⟩ =
          if uid ∈ memory.livingGhosts then some object else none := by
    obtain ⟨owner, hreferences, rfl⟩ := (hhomemade kind _ object hobject).2.owner
    exact find?_collectGarbage_of_owner hobject hreferences
  constructor
  · rintro ⟨object, hobject⟩
    have hbefore := find?_collectGarbage hobject
    refine ⟨⟨object, hbefore⟩, ?_⟩
    by_contra hgone
    rw [hcollected hbefore, if_neg hgone] at hobject
    cases hobject
  · rintro ⟨⟨object, hobject⟩, hliving⟩
    exact ⟨object, by rw [hcollected hobject, if_pos hliving]⟩

/-! ### Rounds in flight -/

/-- A pass that is about to make a call has not ended. -/
theorem Underway.result?_of_request {α : Type} {underway : Underway α} {request : Call}
    (hrequest : underway.rest.request? = some request) : underway.result? = none := by
  obtain ⟨rest, past⟩ := underway
  cases rest with
  | call other next => rfl
  | done value => cases hrequest
  | announce notice next => cases hrequest
  | log line next => cases hrequest

namespace Traffic

variable {ι : Type} [DecidableEq ι]

/-- A pass that has not ended after an event had not ended before it. -/
theorem result?_of_undergo {α : Type} {traffic : Traffic ι α} {event : Event ι} {index : ι}
    (hresult : ((traffic.undergo event).passes index).result? = none) :
    (traffic.passes index).result? = none := by
  cases event with
  | operation operation => exact hresult
  | step other =>
    by_cases hother : index = other
    · subst hother
      simp only [undergo, passes_advance_self] at hresult
      generalize traffic.passes index = underway at *
      obtain ⟨rest, past⟩ := underway
      cases rest with
      | done value => exact hresult
      | call request next => rfl
      | announce notice next => rfl
      | log line next => rfl
    · simpa only [undergo, passes_advance_of_ne _ hother] using hresult

/-- A pass has begun and has not ended, and it goes on later. -/
def InFlight {α : Type} (traffic : Traffic ι α) (later : List (Event ι)) (index : ι) : Prop :=
  (traffic.passes index).exchanges ≠ [] ∧ (traffic.passes index).result? = none ∧
    .step index ∈ later

/-- Whether an event is a step of a pass. -/
def Event.isStepOf (index : ι) : Event ι → Bool
  | .step other => other = index
  | .operation _ => false

theorem step_mem_iff {later : List (Event ι)} {index : ι} :
    .step index ∈ later ↔ later.any (Event.isStepOf index) = true := by
  rw [List.any_eq_true]
  constructor
  · intro hstep
    exact ⟨_, hstep, by simp [Event.isStepOf]⟩
  · rintro ⟨event, hevent, hstep⟩
    cases event with
    | operation operation => cases hstep
    | step other => exact of_decide_eq_true hstep ▸ hevent

instance {later : List (Event ι)} {index : ι} : Decidable (.step index ∈ later) :=
  decidable_of_iff _ step_mem_iff.symm

instance {α : Type} (traffic : Traffic ι α) (later : List (Event ι)) (index : ι) :
    Decidable (traffic.InFlight later index) :=
  inferInstanceAs (Decidable (_ ∧ _ ∧ _))

/-- Whether an event is a collection of garbage. -/
def Event.collects : Event ι → Bool
  | .operation .collectGarbage => true
  | _ => false

omit [DecidableEq ι] in
theorem Event.collects_iff {event : Event ι} :
    event.collects = true ↔ event = .operation .collectGarbage := by
  cases event with
  | step index => simp [collects]
  | operation operation => cases operation <;> simp [collects]

/-- Garbage is collected in a history only while no pass for a team is in flight. -/
def CollectsAtRest {α : Type} (keys : ι → Key) (team : String) (traffic : Traffic ι α)
    (history : List (Event ι)) : Prop :=
  ∀ past later, history = past ++ .operation .collectGarbage :: later →
    ∀ index, (keys index).namespaceName = team → ¬(traffic.through past).InFlight later index

section CollectsAtRest

variable {α : Type} {keys : ι → Key} {team : String} {traffic : Traffic ι α} {event : Event ι}
  {history : List (Event ι)}

theorem CollectsAtRest.start (hcollects : traffic.CollectsAtRest keys team (event :: history))
    (hevent : event = .operation .collectGarbage) {index : ι}
    (hindex : (keys index).namespaceName = team) : ¬traffic.InFlight history index := by
  subst hevent
  exact hcollects [] history rfl index hindex

theorem CollectsAtRest.rest (hcollects : traffic.CollectsAtRest keys team (event :: history)) :
    (traffic.undergo event).CollectsAtRest keys team history := by
  rintro past later rfl
  exact hcollects (event :: past) later rfl

end CollectsAtRest

/-- The collections in a history are at its places. -/
theorem collectsAtRest_iff {α : Type} {keys : ι → Key} {team : String} {traffic : Traffic ι α}
    {history : List (Event ι)} :
    traffic.CollectsAtRest keys team history ↔
      ∀ place : Fin history.length, (history.get place).collects = true →
        ∀ index, (keys index).namespaceName = team →
          ¬(traffic.through (history.take place.val)).InFlight (history.drop (place.val + 1))
            index := by
  constructor
  · intro hcollects place hplace
    refine hcollects _ _ ?_
    have hevent : history[place.val] = .operation .collectGarbage := Event.collects_iff.1 hplace
    rw [← hevent, ← List.drop_eq_getElem_cons, List.take_append_drop]
  · rintro hplaces past later rfl
    have hplace := hplaces ⟨past.length, by simp⟩
    simpa [Event.collects] using hplace

instance {count : Nat} {α : Type} {keys : Fin count → Key} {team : String}
    {traffic : Traffic (Fin count) α} {history : List (Event (Fin count))} :
    Decidable (traffic.CollectsAtRest keys team history) :=
  decidable_of_iff _ collectsAtRest_iff.symm

variable {key : Key} {uid : String} {keys : ι → Key} {times : ι → Instant}
  {traffic : Traffic ι (Except Failure Unit)} {event : Event ι}

/-- What an event other than garbage collection does to the children that a team has: nothing, or
what a write of one of them does that a round of the team makes. -/
theorem Domestic.has_undergo (hdomestic : traffic.Domestic key uid)
    (hregular : traffic.Regular keys times)
    (hothers : ∀ write, event = .operation (.call (.change write)) →
      write.key.namespaceName ≠ key.namespaceName)
    (hevent : event ≠ .operation .collectGarbage) :
    (∀ kind, (traffic.undergo event).memory.Has key.namespaceName kind ↔
        traffic.memory.Has key.namespaceName kind) ∨
      ∃ index write, event = .step index ∧ (keys index).namespaceName = key.namespaceName ∧
        (traffic.passes index).rest.request? = some (.change write) ∧
        write.key = ⟨key.namespaceName, write.kind.childName key.namespaceName⟩ ∧
        (traffic.undergo event).memory = (traffic.memory.answer (.change write)).2 := by
  rcases traffic.memory_undergo event with
    hmemory | ⟨operation, rfl, hmemory⟩ | ⟨index, request, rfl, hrequest, hmemory⟩
  · rw [hmemory]
    exact .inl fun kind ↦ Iff.rfl
  · rw [hmemory]
    have hoperation : operation ≠ .collectGarbage := by
      rintro rfl
      exact hevent rfl
    have hchildren := traffic.memory.children_perform hoperation
      fun write hwrite ↦ hothers write (congrArg Event.operation hwrite)
    exact .inl (Memory.has_congr hchildren)
  · rw [hmemory]
    have hteam := (hregular.confined index).request hrequest
    by_cases hwrite : ∃ write, request = .change write
    · obtain ⟨write, rfl⟩ := hwrite
      by_cases hspace : (keys index).namespaceName = key.namespaceName
      · exact .inr ⟨index, write, rfl, hspace, hrequest,
          hdomestic.key_of_write hregular hrequest hspace, rfl⟩
      · have hother : key.namespaceName ≠ (Call.change write).team := fun hsame ↦
          hspace (hteam.symm.trans hsame.symm)
        have hview := traffic.memory.view_answer_of_ne hother
        exact .inl (Memory.has_congr (congrArg TeamView.children hview))
    · have hchildren := traffic.memory.children_answer fun write hother ↦ hwrite ⟨write, hother⟩
      refine .inl (Memory.has_congr ?_)
      unfold Memory.view
      rw [hchildren]

/-- A child other than the ingress stays unless garbage is collected. -/
theorem Domestic.has_of_has (hdomestic : traffic.Domestic key uid)
    (hregular : traffic.Regular keys times)
    (hothers : ∀ write, event = .operation (.call (.change write)) →
      write.key.namespaceName ≠ key.namespaceName)
    (hevent : event ≠ .operation .collectGarbage) {kind : ChildKind} (hkind : kind ≠ .ingress)
    (hhas : traffic.memory.Has key.namespaceName kind) :
    (traffic.undergo event).memory.Has key.namespaceName kind := by
  rcases hdomestic.has_undergo hregular hothers hevent with
    hsame | ⟨index, write, -, -, -, hplace, hmemory⟩
  · exact (hsame kind).2 hhas
  · rw [hmemory]
    exact hhas.change hplace hkind

/-- What a round has seen in place after an event it had seen before, or it is there now. -/
theorem Domestic.seenIn_undergo (hdomestic : traffic.Domestic key uid)
    (hregular : traffic.Regular keys times) {index : ι}
    (hspace : (keys index).namespaceName = key.namespaceName) {kind : ChildKind}
    (hseen : SeenIn key.namespaceName kind ((traffic.undergo event).passes index).exchanges) :
    SeenIn key.namespaceName kind (traffic.passes index).exchanges ∨
      (traffic.undergo event).memory.Has key.namespaceName kind := by
  rcases hseen with ⟨object, hfound⟩ | ⟨object, hcreated⟩
  · rcases mem_exchanges_undergo hfound with hold | ⟨rfl, request, hrequest, hnew⟩
    · exact .inl (.inl ⟨object, hold⟩)
    · have hfinds := Exchange.Finds.child kind
        ⟨key.namespaceName, kind.childName key.namespaceName⟩ object
      rw [hnew] at hfinds
      obtain ⟨hrequested, -⟩ := Exchange.mk.inj hnew
      subst hrequested
      rw [(step_of_request hrequest).2]
      have hbefore : traffic.memory.Has key.namespaceName kind := ⟨object, hfinds.find? rfl⟩
      refine .inr ((Memory.has_congr ?_ kind).2 hbefore)
      unfold Memory.view
      rw [traffic.memory.children_answer fun write hwrite ↦ by cases hwrite]
  · rcases mem_exchanges_undergo hcreated with hold | ⟨rfl, request, hrequest, hnew⟩
    · exact .inl (.inr ⟨object, hold⟩)
    · obtain ⟨hrequested, hreply⟩ := Exchange.mk.inj hnew
      subst hrequested
      rw [(step_of_request hrequest).2]
      exact .inr (Memory.has_create (hdomestic.key_of_write hregular hrequest hspace)
        (eq_of_heq hreply).symm)

/-! ### Children stand on those before them -/

/-- The children of a team are stacked, and whatever a round of the team has seen in place is still
there, if the round is in flight. -/
structure Founded (key : Key) (keys : ι → Key) (later : List (Event ι))
    (traffic : Traffic ι (Except Failure Unit)) : Prop where
  stacked : traffic.memory.Stacked key.namespaceName
  seen : ∀ {index kind}, (keys index).namespaceName = key.namespaceName →
    .step index ∈ later → (traffic.passes index).result? = none → kind ≠ .ingress →
      SeenIn key.namespaceName kind (traffic.passes index).exchanges →
        traffic.memory.Has key.namespaceName kind

omit [DecidableEq ι] in
theorem founded_ofRounds (key : Key) (keys : ι → Key) (times : ι → Instant)
    (later : List (Event ι)) : (ofRounds {} keys times).Founded key keys later where
  stacked kind earlier _ hhas := by
    obtain ⟨object, hobject⟩ := hhas
    cases kind <;> cases hobject
  seen _ _ _ _ hseen := by
    rcases hseen with ⟨object, hfound⟩ | ⟨object, hcreated⟩
    · cases hfound
    · cases hcreated

section Founded

variable {later : List (Event ι)}

omit [DecidableEq ι] in
/-- A round makes a write only while everything is there that precedes the child. -/
theorem Founded.has_of_write (hfounded : traffic.Founded key keys (event :: later)) {index : ι}
    (hevent : event = .step index) (hspace : (keys index).namespaceName = key.namespaceName)
    (hkeeps : (traffic.passes index).rest.Keeps .exchanges
      (Call.InSequence (keys index).namespaceName) (fun _ _ ↦ True)
      (traffic.passes index).exchanges) {write : Write}
    (hrequest : (traffic.passes index).rest.request? = some (.change write)) {earlier : ChildKind}
    (hprecedes : earlier.Precedes write.kind) :
    traffic.memory.Has key.namespaceName earlier := by
  have hseen := hkeeps.request hrequest write.kind rfl earlier hprecedes
  rw [hspace] at hseen
  have hstep : .step index ∈ event :: later := hevent ▸ List.mem_cons_self
  exact hfounded.seen hspace hstep (Underway.result?_of_request hrequest) hprecedes.ne_ingress hseen

/-- The children of a team are stacked after any event. -/
theorem Founded.stacked_undergo (hfounded : traffic.Founded key keys (event :: later))
    (hregular : traffic.Regular keys times) (hdomestic : traffic.Domestic key uid)
    (hkeeps : ∀ index, (traffic.passes index).rest.Keeps .exchanges
      (Call.InSequence (keys index).namespaceName) (fun _ _ ↦ True)
      (traffic.passes index).exchanges)
    (hothers : ∀ write, event = .operation (.call (.change write)) →
      write.key.namespaceName ≠ key.namespaceName) :
    (traffic.undergo event).memory.Stacked key.namespaceName := by
  intro kind earlier hprecedes hhas
  by_cases hevent : event = .operation .collectGarbage
  · subst hevent
    have hcollected := Memory.has_collectGarbage hdomestic.children
    obtain ⟨hbefore, hliving⟩ := (hcollected kind).1 hhas
    exact (hcollected earlier).2 ⟨hfounded.stacked kind earlier hprecedes hbefore, hliving⟩
  · rcases hdomestic.has_undergo hregular hothers hevent with
      hsame | ⟨index, write, hstep, hspace, hrequest, hplace, hmemory⟩
    · exact (hsame earlier).2 (hfounded.stacked kind earlier hprecedes ((hsame kind).1 hhas))
    · have hbefore : traffic.memory.Has key.namespaceName earlier := by
        by_cases hkind : kind = write.kind
        · subst hkind
          exact hfounded.has_of_write hstep hspace (hkeeps index) hrequest hprecedes
        · rw [hmemory] at hhas
          exact hfounded.stacked kind earlier hprecedes
            ((Memory.has_change_of_ne hplace hkind).1 hhas)
      rw [hmemory]
      exact hbefore.change hplace hprecedes.ne_ingress

/-- Nothing takes from rounds in flight what they have seen in place, as long as garbage is
collected at rest. -/
theorem Founded.undergo (hfounded : traffic.Founded key keys (event :: later))
    (hregular : traffic.Regular keys times) (hdomestic : traffic.Domestic key uid)
    (hkeeps : ∀ index, (traffic.passes index).rest.Keeps .exchanges
      (Call.InSequence (keys index).namespaceName) (fun _ _ ↦ True)
      (traffic.passes index).exchanges)
    (hothers : ∀ write, event = .operation (.call (.change write)) →
      write.key.namespaceName ≠ key.namespaceName)
    (hcollects : traffic.CollectsAtRest keys key.namespaceName (event :: later)) :
    (traffic.undergo event).Founded key keys later where
  stacked := hfounded.stacked_undergo hregular hdomestic hkeeps hothers
  seen {index kind} hspace hlater hresult hkind hseen := by
    have hresult' := result?_of_undergo hresult
    by_cases hevent : event = .operation .collectGarbage
    · have hbegun : (traffic.passes index).exchanges ≠ [] := by
        subst hevent
        rcases hseen with ⟨object, hfound⟩ | ⟨object, hcreated⟩
        · exact List.ne_nil_of_mem hfound
        · exact List.ne_nil_of_mem hcreated
      exact absurd ⟨hbegun, hresult', hlater⟩ (hcollects.start hevent hspace)
    · rcases hdomestic.seenIn_undergo hregular hspace hseen with hold | hnew
      · have hbefore := hfounded.seen hspace (List.mem_cons_of_mem event hlater) hresult' hkind hold
        exact hdomestic.has_of_has hregular hothers hevent hkind hbefore
      · exact hnew

/-- The children of a team are stacked at the end of a history. -/
theorem Founded.through (hfounded : traffic.Founded key keys later)
    (hregular : traffic.Regular keys times) (hdomestic : traffic.Domestic key uid)
    (hkeeps : ∀ index, (traffic.passes index).rest.Keeps .exchanges
      (Call.InSequence (keys index).namespaceName) (fun _ _ ↦ True)
      (traffic.passes index).exchanges)
    (hlone : traffic.Throughout later (Memory.LoneBlog key uid))
    (hothers : ∀ write, Event.operation (.call (.change write)) ∈ later →
      write.key.namespaceName ≠ key.namespaceName)
    (hcollects : traffic.CollectsAtRest keys key.namespaceName later) :
    (traffic.through later).memory.Stacked key.namespaceName := by
  induction later generalizing traffic with
  | nil => exact hfounded.stacked
  | cons event later ih =>
    have hother (write : Write) (hevent : event = .operation (.call (.change write))) :
        write.key.namespaceName ≠ key.namespaceName :=
      hothers write (hevent ▸ List.mem_cons_self)
    exact ih (hfounded.undergo hregular hdomestic hkeeps hother hcollects)
      (hregular.undergo event) (hdomestic.undergo hregular hlone.start hother)
      (fun index ↦ keeps_undergo (Growth.tracks_exchanges _) (hkeeps index) event) hlone.rest
      (fun write hwrite ↦ hothers write (List.mem_cons_of_mem event hwrite)) hcollects.rest

end Founded

end Traffic

/-! ### References hold -/

namespace Memory

variable {memory : Memory} {key : Key} {uid : String}

/-- What a homemade deployment refers to is there. -/
theorem supplies_of_homemade (hhomemade : (memory.view key.namespaceName).Homemade key uid)
    (hstacked : memory.Stacked key.namespaceName) {name : String} {deployment : Deployment}
    (hdeployment : memory.children.deployments.find? ⟨key.namespaceName, name⟩ =
      some deployment) : memory.Supplies key.namespaceName deployment := by
  obtain ⟨rfl, blog, owner, version, hbears, howner, rfl⟩ :=
    hhomemade .deployment name deployment hdeployment
  have hteam := hbears.team_eq
  obtain ⟨claim, hclaim⟩ : memory.Has key.namespaceName .volumeClaim :=
    hstacked .deployment .volumeClaim (by decide) ⟨_, hdeployment⟩
  refine ⟨blog.deploymentSpec, _, rfl, rfl, ?_, ?_, ?_⟩
  · exact ⟨_, List.mem_cons_self, rfl⟩
  · intro volume hvolume source hsource
    obtain rfl := List.mem_singleton.1 hvolume
    cases hsource
    rw [hteam]
    exact ⟨claim, hclaim⟩
  · intro container hcontainer mount hmount
    obtain rfl := List.mem_singleton.1 hcontainer
    obtain rfl := List.mem_singleton.1 hmount
    exact ⟨_, List.mem_cons_self, rfl⟩

/-- A homemade service leads to the pods of the homemade deployment. -/
theorem serves_of_homemade (hhomemade : (memory.view key.namespaceName).Homemade key uid)
    (hservice : memory.Has key.namespaceName .service)
    (hdeployment : memory.Has key.namespaceName .deployment) :
    memory.Serves key.namespaceName (ChildKind.service.childName key.namespaceName)
      servicePort := by
  obtain ⟨service, hservice⟩ := hservice
  obtain ⟨deployment, hdeployment⟩ := hdeployment
  obtain ⟨-, blog, owner, version, hbears, howner, rfl⟩ :=
    hhomemade .service _ service hservice
  obtain ⟨-, other, owner', version', hbears', howner', rfl⟩ :=
    hhomemade .deployment _ deployment hdeployment
  have hteam : other.team = blog.team := hbears'.team_eq.trans hbears.team_eq.symm
  refine ⟨_, _, _, _, _, other.deploymentSpec, _, other.container, _, podLabels blog.team,
    hservice, rfl, List.mem_cons_self, rfl, hdeployment, rfl, rfl, List.mem_cons_self,
    List.mem_cons_self, rfl, List.cons_ne_nil _ _, rfl, ?_, ?_⟩
  · exact congrArg (fun team ↦ some (podLabels team)) hteam
  · exact congrArg (fun team ↦ some (podLabels team)) hteam

/-- What a homemade ingress routes to is there. -/
theorem routes_of_homemade (hhomemade : (memory.view key.namespaceName).Homemade key uid)
    (hstacked : memory.Stacked key.namespaceName) {name : String} {ingress : Ingress}
    (hingress : memory.children.ingresses.find? ⟨key.namespaceName, name⟩ = some ingress) :
    memory.Routes key.namespaceName ingress := by
  obtain ⟨rfl, blog, owner, version, hbears, howner, rfl⟩ :=
    hhomemade .ingress name ingress hingress
  have hteam := hbears.team_eq
  have hthere : memory.Has key.namespaceName .ingress := ⟨_, hingress⟩
  have hserves := serves_of_homemade hhomemade
    (hstacked .ingress .service (by decide) hthere)
    (hstacked .ingress .deployment (by decide) hthere)
  refine ⟨_, _, rfl, rfl, List.cons_ne_nil _ _, fun rule hrule ↦ ?_⟩
  obtain rfl := List.mem_singleton.1 hrule
  refine ⟨_, rfl, List.cons_ne_nil _ _, fun path hpath ↦ ?_⟩
  obtain rfl := List.mem_singleton.1 hpath
  refine ⟨_, servicePort, rfl, rfl, ?_⟩
  rw [hteam]
  exact hserves

end Memory

/-- Nobody but rounds writes children in a namespace, there are only blogs of one name and one
identity in it, and garbage is collected only while no round for the namespace is in flight; all
else may happen in any order.

Then, at all times, what a deployment in the namespace claims and mounts is there, and behind every
route of an ingress in it stands a service that leads to the pods of a deployment. -/
theorem references_hold {ι : Type} [DecidableEq ι] (keys : ι → Key) (times : ι → Instant)
    {history : List (Traffic.Event ι)} {key : Key} {uid : String}
    (hothers : ∀ write, Traffic.Event.operation (.call (.change write)) ∈ history →
      write.key.namespaceName ≠ key.namespaceName)
    (hlone : (Traffic.ofRounds {} keys times).Throughout history (Memory.LoneBlog key uid))
    (hcollects : (Traffic.ofRounds {} keys times).CollectsAtRest keys key.namespaceName history) :
    let memory := ((Traffic.ofRounds {} keys times).through history).memory
    (∀ name deployment,
        memory.children.deployments.find? ⟨key.namespaceName, name⟩ = some deployment →
          memory.Supplies key.namespaceName deployment) ∧
      ∀ name ingress,
        memory.children.ingresses.find? ⟨key.namespaceName, name⟩ = some ingress →
          memory.Routes key.namespaceName ingress := by
  intro memory
  have hregular := Traffic.regular_ofRounds .empty keys times
  have hstart := Traffic.domestic_ofRounds key uid keys times
  have hhomemade : (memory.view key.namespaceName).Homemade key uid :=
    (hstart.through hregular hlone hothers).children
  have hstacked : memory.Stacked key.namespaceName :=
    (Traffic.founded_ofRounds key keys times history).through hregular hstart
      (fun index ↦ inSequence_reconcile (keys index) (times index)) hlone hothers hcollects
  exact ⟨fun name deployment hdeployment ↦
      Memory.supplies_of_homemade hhomemade hstacked hdeployment,
    fun name ingress hingress ↦ Memory.routes_of_homemade hhomemade hstacked hingress⟩

/-- A round is dropped when it has created the deployment, the blog is deleted, and garbage is
collected. The blog is applied again. Another round fails on the service, and a third one has just
created the ingress. -/
theorem references_hold_marketing :
    let blog (spec : GhostSpec) : Ghost := {
      metadata := { name := some "blog", namespaceName := some "marketing" }
      spec }
    let key : Key := ⟨"marketing", "blog"⟩
    let history : List (Traffic.Event (Fin 3)) :=
      [.operation (.apply (blog ⟨"4", 1, true⟩))] ++ List.replicate 8 (.step 0) ++
        [.operation (.delete key), .operation .collectGarbage,
          .operation (.apply (blog ⟨"5", 2, true⟩)),
          .operation (.setFault (.create .service) (some "exceeded quota"))] ++
        List.replicate 14 (.step 1) ++
        [.operation (.setFault (.create .service) none)] ++ List.replicate 12 (.step 2)
    let rounds := Traffic.ofRounds {} (fun _ ↦ key) fun _ ↦ .epoch
    let memory := (rounds.through history).memory
    (∀ write, Traffic.Event.operation (.call (.change write)) ∈ history →
        write.key.namespaceName ≠ key.namespaceName) ∧
      rounds.Throughout history (Memory.LoneBlog key "uid-marketing-blog") ∧
      rounds.CollectsAtRest (fun _ ↦ key) key.namespaceName history ∧
      ((rounds.through history).passes 2).result? = none ∧
      ∃ deployment ingress,
        memory.children.deployments.find? ⟨key.namespaceName, "ghost-deployment-marketing"⟩ =
          some deployment ∧ memory.Supplies key.namespaceName deployment ∧
        memory.children.ingresses.find? ⟨key.namespaceName, "ghost-ingress-marketing"⟩ =
          some ingress ∧ memory.Routes key.namespaceName ingress := by
  intro blog key history rounds memory
  have hothers (write : Write)
      (hwrite : Traffic.Event.operation (.call (.change write)) ∈ history) :
      write.key.namespaceName ≠ key.namespaceName := by
    simp [history] at hwrite
  have hlone : rounds.Throughout history (Memory.LoneBlog key "uid-marketing-blog") := by
    decide +kernel
  have hcollects : rounds.CollectsAtRest (fun _ ↦ key) key.namespaceName history := by
    decide +kernel
  have hflight : ((rounds.through history).passes 2).result? = none := by decide +kernel
  have hdeployed : (memory.children.deployments.find?
      ⟨key.namespaceName, "ghost-deployment-marketing"⟩).isSome = true := by decide +kernel
  have hrouted : (memory.children.ingresses.find?
      ⟨key.namespaceName, "ghost-ingress-marketing"⟩).isSome = true := by decide +kernel
  obtain ⟨deployment, hdeployment⟩ := Option.isSome_iff_exists.1 hdeployed
  obtain ⟨ingress, hingress⟩ := Option.isSome_iff_exists.1 hrouted
  have hthere := references_hold (fun _ ↦ key) (fun _ ↦ .epoch) hothers hlone hcollects
  refine ⟨hothers, hlone, hcollects, hflight, deployment, ingress, hdeployment, ?_, hingress, ?_⟩
  · dsimp only [memory, rounds] at hthere hdeployment ⊢
    exact hthere.1 _ _ hdeployment
  · dsimp only [memory, rounds] at hthere hingress ⊢
    exact hthere.2 _ _ hingress

end BlogOperator
