import BlogOperator.Proofs.Due
import BlogOperator.Proofs.Wire
import BlogOperator.Reconcile.Round

/-!
# What is taken for absence

A round over the wire takes a child for absent, and creates one, only after the lookup of the team's
child has been refused with code 404. This holds against every server: the status and the body of a
reply may be anything, and a request may get lost. Any other answer to a lookup that is not the
object ends the round, and a refusal with code 404 of anything but a lookup is a failure like
others.

`Rests` says on which messages a call of a round rests, and `Decided` that a call that fails decides
how the round ends. Both hold of every round, for replies of any kind (`decided_reconcile`).
`Disciplined` says what a single request on the wire may be and what must have been sent before it,
and `absence_disciplined` reads it off the record of a round. `writes_elsewhere` shows why what is
written is said to be the child of the blog that was read, and the deployment that was found, and
not simply what was looked up.
-/

set_option autoImplicit false

namespace BlogOperator

/-- The failure of a call, if it failed. -/
def Exchange.failure? : Exchange → Option Failure
  | ⟨_, .error failure⟩ => some failure
  | ⟨_, .ok _⟩ => none

theorem Exchange.failure?_eq_some_iff {call : Call} {reply : call.Reply} {failure : Failure} :
    failure? ⟨call, reply⟩ = some failure ↔ reply = .error failure := by
  rcases reply with other | answer <;> simp [failure?]

namespace Http

open BlogOperator.Json BlogOperator.Kubernetes BlogOperator.Text BlogOperator.Time

/-! ### What calls rest on -/

/-- The exchanges that messages are part of. -/
def exchangesOf (messages : List Message) : List Exchange :=
  messages.filterMap Message.exchange?

@[simp] theorem exchangesOf_concat (past : List Message) (message : Message) :
    exchangesOf (past ++ [message]) = exchangesOf past ++ message.exchange?.toList := by
  unfold exchangesOf
  rcases hexchange : message.exchange? with _ | exchange <;> simp [hexchange]

/-- No call has failed. -/
def Untroubled (past : List Message) : Prop :=
  ∀ exchange ∈ exchangesOf past, exchange.failure? = none

/-- No call has failed in any other way than this. -/
def Blames (past : List Message) (failure : Failure) : Prop :=
  ∀ exchange ∈ exchangesOf past, ∀ other, exchange.failure? = some other → other = failure

/-- The first message was the lookup of the blog, and this is what was found. -/
def OpenedWith (key : Key) (ghost : Ghost) (past : List Message) : Prop :=
  past.head?.bind Message.exchange? = some ⟨.readGhost key, .ok (some ghost)⟩

/-- The last message was the lookup of the team's child of a kind, and this is what was found. -/
def FoundLast (team : String) (kind : ChildKind) (live : Option kind.Object)
    (past : List Message) : Prop :=
  past.getLast?.bind Message.exchange? =
    some ⟨.find kind ⟨team, kind.childName team⟩, .ok live⟩

/-- What a call of the round for a key rests on. Only the blog's status is written after a call has
failed. -/
def Rests (key : Key) (past : List Message) : Call → Prop
  | .readGhost place => place = key ∧ past = []
  | .find kind place =>
    place = ⟨key.namespaceName, kind.childName key.namespaceName⟩ ∧ Untroubled past
  | .change write =>
    Untroubled past ∧ ∃ ghost live, OpenedWith key ghost past ∧
      FoundLast key.namespaceName write.kind live past ∧
      ghost.Wants key.namespaceName write.kind live write
  | .writeStatus _ _ => True

/-- The messages up to a point of the round for a blog that has been read, when nothing has failed
yet. -/
structure Undisturbed (key : Key) (ghost : Ghost) (past : List Message) : Prop where
  opened : OpenedWith key ghost past
  untroubled : Untroubled past

section Messages

variable {past later : List Message} {call : Call}

theorem Untroubled.blames (hpast : Untroubled past) (failure : Failure) : Blames past failure := by
  intro exchange hmem other hother
  rw [hpast exchange hmem] at hother
  cases hother

/-- A call adds no other exchange than its own. -/
theorem Issued.mem_exchangesOf {reply : call.Reply} (hissued : Issued past call reply later)
    {exchange : Exchange} (hmem : exchange ∈ exchangesOf later) :
    exchange ∈ exchangesOf past ∨ exchange = ⟨call, reply⟩ := by
  cases hissued with
  | unsent fault hreply => exact .inl hmem
  | sent message hmessage => simpa [hmessage] using hmem

/-- The failure of a call is the only one if there was none before it. -/
theorem Issued.blames {failure : Failure} (hissued : Issued past call (.error failure) later)
    (hpast : Untroubled past) : Blames later failure := by
  intro exchange hmem other hother
  rcases hissued.mem_exchangesOf hmem with hbefore | rfl
  · exact hpast.blames failure exchange hbefore other hother
  · cases hother
    rfl

/-- A call that is answered has been sent. -/
theorem Issued.exists_message {answer : call.Answer}
    (hissued : Issued past call (.ok answer) later) :
    ∃ message, message.exchange? = some ⟨call, .ok answer⟩ ∧ later = past ++ [message] := by
  cases hissued with
  | unsent fault hreply => cases hreply
  | sent message hmessage => exact ⟨message, hmessage, rfl⟩

theorem Issued.untroubled {answer : call.Answer} (hissued : Issued past call (.ok answer) later)
    (hpast : Untroubled past) : Untroubled later := by
  intro exchange hmem
  rcases hissued.mem_exchangesOf hmem with hbefore | rfl
  · exact hpast exchange hbefore
  · rfl

theorem OpenedWith.append {key : Key} {ghost : Ghost} (hopened : OpenedWith key ghost past)
    (more : List Message) : OpenedWith key ghost (past ++ more) := by
  unfold OpenedWith at *
  rcases past with _ | ⟨message, rest⟩
  · cases hopened
  · exact hopened

theorem Issued.openedWith {answer : call.Answer} {key : Key} {ghost : Ghost}
    (hissued : Issued past call (.ok answer) later) (hopened : OpenedWith key ghost past) :
    OpenedWith key ghost later := by
  obtain ⟨message, -, rfl⟩ := hissued.exists_message
  exact hopened.append _

/-- A call that is answered is the last thing that has been sent. -/
theorem Issued.getLast?_eq {answer : call.Answer}
    (hissued : Issued past call (.ok answer) later) :
    later.getLast?.bind Message.exchange? = some ⟨call, .ok answer⟩ := by
  obtain ⟨message, hmessage, rfl⟩ := hissued.exists_message
  rw [List.getLast?_concat]
  exact hmessage

/-- The messages about notices are neither here nor there. -/
theorem Announced.exchangesOf_eq (hannounced : Announced past later) :
    exchangesOf later = exchangesOf past := by
  cases hannounced with
  | unsent => rfl
  | sent message hmessage => simp [hmessage]

theorem Announced.openedWith {key : Key} {ghost : Ghost} (hannounced : Announced past later)
    (hopened : OpenedWith key ghost past) : OpenedWith key ghost later := by
  cases hannounced with
  | unsent => exact hopened
  | sent message hmessage => exact hopened.append _

theorem Undisturbed.issued {answer : call.Answer} {key : Key} {ghost : Ghost}
    (hpast : Undisturbed key ghost past) (hissued : Issued past call (.ok answer) later) :
    Undisturbed key ghost later where
  opened := hissued.openedWith hpast.opened
  untroubled := hissued.untroubled hpast.untroubled

theorem Undisturbed.announced {key : Key} {ghost : Ghost} (hpast : Undisturbed key ghost past)
    (hannounced : Announced past later) : Undisturbed key ghost later where
  opened := hannounced.openedWith hpast.opened
  untroubled := by
    unfold Untroubled
    rw [hannounced.exchangesOf_eq]
    exact hpast.untroubled

end Messages

/-! ### The parts of a round -/

/-- Failed calls have decided how a round ends: the round reports a failure, and the one of the call
unless the call was to write the status. -/
def Decided (past : List Message) (result : Except Failure Unit) : Prop :=
  ∀ exchange ∈ exchangesOf past, ∀ failure, exchange.failure? = some failure →
    (∃ reported, result = .error reported) ∧
      (exchange.request.name ≠ .writeStatus → result = .error failure)

section Rounds

variable {key : Key} {ghost : Ghost} {past : List Message}

/-- The step for a child creates it only after its lookup has found nothing, and ends in its own
failure or leaves no failure behind. -/
theorem accounted_putInPlace (hpast : Undisturbed key ghost past) (kind : ChildKind) :
    (ghost.putInPlace key.namespaceName kind).Keeps .messages (Rests key)
      (EitherWay (Undisturbed key ghost) fun failure later ↦ Blames later failure) past := by
  refine Ghost.keeps_putInPlace ⟨rfl, hpast.untroubled⟩ ?_ ?_ ?_ ?_
  · intro failure later hissued
    exact hissued.blames hpast.untroubled
  · intro later hissued
    exact (hpast.issued hissued).untroubled.blames _
  · intro live later hissued _
    exact hpast.issued hissued
  · intro live later write hissued hwants
    obtain rfl := hwants.kind_eq
    have hlater : Undisturbed key ghost later := hpast.issued hissued
    have hfound : FoundLast key.namespaceName write.kind live later := hissued.getLast?_eq
    refine Ghost.keeps_carryOut
      ⟨hlater.untroubled, ghost, live, hlater.opened, hfound, hwants⟩ ?_ ?_
    · intro failure last hlast
      exact hlast.blames hlater.untroubled
    · intro last told hlast hannounced
      exact (hlater.issued hlast).announced hannounced

/-- What is known when the steps are over decides how the round ends, whatever becomes of the
status. -/
theorem decided_of_offer (status : GhostStatus) {verdict : Except Setback Unit}
    {later : List Message} {reply : Except Failure Unit}
    (hpast : EitherWay (Undisturbed key ghost)
      (fun (setback : Setback) past ↦ Blames past setback.failure) past verdict)
    (hlater : ∀ exchange ∈ exchangesOf later,
      exchange ∈ exchangesOf past ∨ exchange = ⟨.writeStatus ghost status, reply⟩) :
    Decided later (resultOf verdict reply) := by
  intro exchange hmem failure hfailure
  cases verdict with
  | error setback =>
    refine ⟨⟨_, rfl⟩, fun hother ↦ ?_⟩
    rcases hlater exchange hmem with hbefore | rfl
    · exact congrArg Except.error (hpast exchange hbefore failure hfailure).symm
    · exact absurd rfl hother
  | ok =>
    rcases hlater exchange hmem with hbefore | rfl
    · rw [hpast.untroubled exchange hbefore] at hfailure
      cases hfailure
    · have hreply : reply = .error failure := Exchange.failure?_eq_some_iff.1 hfailure
      exact ⟨⟨failure, hreply⟩, fun _ ↦ hreply⟩

/-- Every call of a round rests on what it should, and every failed call decides how the round
ends, whatever comes back. -/
theorem decided_reconcile (key : Key) (now : Instant) :
    (reconcile key now).Keeps .messages (Rests key) Decided [] := by
  have hempty : Untroubled [] := by
    intro exchange hmem
    cases hmem
  refine keeps_reconcile ⟨rfl, rfl⟩ ?_ ?_ ?_
  · intro failure later hissued exchange hmem other hother
    have hsame : other = failure := hissued.blames hempty exchange hmem other hother
    exact ⟨⟨_, rfl⟩, fun _ ↦ congrArg _ hsame.symm⟩
  · intro later hissued exchange hmem failure hfailure
    rw [hissued.untroubled hempty exchange hmem] at hfailure
    cases hfailure
  · intro ghost later hissued
    have hlater : Undisturbed key ghost later := by
      refine ⟨?_, hissued.untroubled hempty⟩
      obtain ⟨message, hmessage, rfl⟩ := hissued.exists_message
      exact hmessage
    refine keeps_reconcileGhost (fun kind _ past hpast ↦ accounted_putInPlace hpast kind) ?_ hlater
    intro verdict past hpast
    refine Ghost.keeps_recordStatus (fun _ ↦ ?_) (fun _ ↦ trivial) fun reply later _ hissued ↦ ?_
    · exact decided_of_offer ghost.statusOrEmpty hpast fun exchange hmem ↦ .inl hmem
    · exact decided_of_offer _ hpast fun exchange hmem ↦ hissued.mem_exchangesOf hmem

end Rounds

/-! ### What is seen on the wire -/

/-- A failure ends a round: the round reports it, and of what is written nothing but the status
follows. -/
def EndsWith (result : Except Failure Unit) (rest : List Sending) (failure : Failure) : Prop :=
  result = .error failure ∧
    ∀ later ∈ rest, later.request.OfNotice ∨ later.request.method = .patch

/-- The first thing that was sent is the lookup of the blog, and this is what was found. -/
def ReadFirst (key : Key) (ghost : Ghost) (past : List Sending) : Prop :=
  ∃ lookup reply later, requestOf (.readGhost key) = .ok lookup ∧
    past = ⟨lookup, .ok reply⟩ :: later ∧ readObject Ghost.form reply = .ok ghost

/-- The last thing that was sent is the lookup of a child, and this is what came back. -/
def LookedUp (kind : ChildKind) (place : Key) (past : List Sending) (reply : Reply) : Prop :=
  ∃ earlier lookup, requestOf (.find kind place) = .ok lookup ∧
    past = earlier ++ [⟨lookup, .ok reply⟩]

/-- How the response to a lookup is taken: the object has been found, or it is absent by code 404,
or there is any other failure and the round ends with it. -/
inductive Taken {α : Type} (form : Form α) (response : Except String Reply)
    (ends : Failure → Prop) : Prop
  | found {reply : Reply} {object : α} (hresponse : response = .ok reply)
      (hobject : readObject form reply = .ok object)
  | absent {reply : Reply} (hresponse : response = .ok reply)
      (habsent : reply.errorCode? = some 404)
  | failed {failure : ApiFailure} (hother : ∀ reply, response = .ok reply →
        reply.errorCode? ≠ some 404)
      (hfailure : readResponse (readObject form) response = .error failure)
      (hends : ends (.cluster failure))

/-- A request carries the write of a child. If the write fails in any way, the round ends with its
failure, and code 404 is such a failure. -/
structure Carries (write : Write) (result : Except Failure Unit) (rest : List Sending)
    (sending : Sending) : Prop where
  request : requestOf (.change write) = .ok sending.request
  failed : ∀ failure, replyOf (.change write) sending.response = .error failure →
    EndsWith result rest failure
  missing : ∀ reply, sending.response = .ok reply → reply.errorCode? = some 404 →
    ∃ failure, failure.isNotFound = true ∧ EndsWith result rest failure

/-- What holds of a request of the round for a key that is not about a notice: by its method it is
a lookup, the write of a child, or the offer of a status, and each rests on what was sent just
before it. -/
inductive Disciplined (key : Key) (result : Except Failure Unit) (past rest : List Sending)
    (sending : Sending) : Prop
  /-- The blog is looked up before anything else. -/
  | blog (hmethod : sending.request.method = .get)
      (hrequest : requestOf (.readGhost key) = .ok sending.request) (hfirst : past = [])
      (htaken : Taken Ghost.form sending.response (EndsWith result rest))
  /-- One of the team's children is looked up. -/
  | child {kind : ChildKind} (hmethod : sending.request.method = .get)
      (hrequest : requestOf (.find kind ⟨key.namespaceName, kind.childName key.namespaceName⟩) =
        .ok sending.request)
      (htaken : Taken kind.form sending.response (EndsWith result rest))
  /-- A child of the blog that was read is created just after the lookup of the team's child of the
  kind was refused with code 404. It is that child if the blog is of the team. -/
  | creation {ghost : Ghost} {owner : OwnerReference} {kind : ChildKind} {reply : Reply}
      (hmethod : sending.request.method = .post) (hread : ReadFirst key ghost past)
      (hlast : LookedUp kind ⟨key.namespaceName, kind.childName key.namespaceName⟩ past reply)
      (habsent : reply.errorCode? = some 404)
      (hcarries : Carries (.create kind (ghost.childOf owner kind)) result rest sending)
      (hsame : ghost.team = key.namespaceName →
        Key.ofMetadata (kind.metadata (ghost.childOf owner kind)) =
          ⟨key.namespaceName, kind.childName key.namespaceName⟩)
  /-- The deployment that has just been found is replaced. -/
  | replacement {live : Deployment} {spec : Option DeploymentSpec} {reply : Reply}
      (hmethod : sending.request.method = .put)
      (hlast : LookedUp .deployment
        ⟨key.namespaceName, ChildKind.deployment.childName key.namespaceName⟩ past reply)
      (hfound : readObject Deployment.form reply = .ok live)
      (hcarries : Carries (.replace { live with spec }) result rest sending)
  /-- The ingress that has just been found is removed. -/
  | removal {live : Ingress} {reply : Reply} (hmethod : sending.request.method = .delete)
      (hlast : LookedUp .ingress
        ⟨key.namespaceName, ChildKind.ingress.childName key.namespaceName⟩ past reply)
      (hfound : readObject Ingress.form reply = .ok live)
      (hcarries : Carries
        (.remove ⟨key.namespaceName, ChildKind.ingress.childName key.namespaceName⟩)
        result rest sending)
  /-- The status is offered, and the round fails if that is refused with code 404. -/
  | status (hmethod : sending.request.method = .patch)
      (hmissing : ∀ reply, sending.response = .ok reply → reply.errorCode? = some 404 →
        ∃ failure, result = .error failure)

section Readings

variable {α : Type} {form : Form α} {response : Except String Reply}

theorem taken_of_ends {ends : Failure → Prop}
    (hends : ∀ failure, readResponse (readFound form) response = .error failure →
      ends (.cluster failure)) :
    Taken form response ends := by
  rcases response with message | reply
  · have hlost : ends (.cluster (.lost message)) := hends _ rfl
    exact .failed (fun reply hreply ↦ nomatch hreply) rfl hlost
  · by_cases habsent : reply.errorCode? = some 404
    · exact .absent rfl habsent
    · rcases hobject : readObject form reply with failure | object
      · have hfailure : readFound form reply = .error failure := by
          rw [readFound_of_other habsent, hobject]
          rfl
        refine .failed (fun other hsame ↦ ?_) hobject (hends failure hfailure)
        cases hsame
        exact habsent
      · exact .found rfl hobject

end Readings

section Records

variable {key : Key} {result : Except Failure Unit} {past rest : List Message} {message : Message}

theorem OpenedWith.readFirst {ghost : Ghost} (hopened : OpenedWith key ghost past) :
    ReadFirst key ghost (past.map Message.sending) := by
  rcases past with _ | ⟨first, later⟩
  · cases hopened
  · obtain ⟨hrequest, hreply⟩ := Message.of_exchange? hopened
    obtain ⟨reply, hresponse, hread⟩ := exists_reply hreply
    refine ⟨first.sending.request, reply, later.map Message.sending, hrequest, ?_,
      found_of_readFound hread⟩
    rw [← hresponse]
    rfl

/-- What has been found last is in the reply to the last thing that was sent. -/
theorem FoundLast.lookedUp {team : String} {kind : ChildKind} {live : Option kind.Object}
    (hfound : FoundLast team kind live past) :
    ∃ reply, LookedUp kind ⟨team, kind.childName team⟩ (past.map Message.sending) reply ∧
      readFound kind.form reply = .ok live := by
  unfold FoundLast at hfound
  obtain ⟨last, hlast, hexchange⟩ := Option.bind_eq_some_iff.1 hfound
  obtain ⟨earlier, rfl⟩ := List.getLast?_eq_some_iff.1 hlast
  obtain ⟨hrequest, hreply⟩ := Message.of_exchange? hexchange
  obtain ⟨reply, hresponse, hread⟩ := exists_reply hreply
  refine ⟨reply, ⟨earlier.map Message.sending, last.sending.request, hrequest, ?_⟩, hread⟩
  rw [← hresponse]
  exact List.map_append

/-- After a call has failed, the round sends nothing about children any more. -/
theorem endsWith_of_failure {exchange : Exchange} {failure : Failure}
    (hlawful : Lawful (Rests key) (past ++ message :: rest))
    (hmessage : message.exchange? = some exchange) (hfailure : exchange.failure? = some failure)
    (hresult : result = .error failure) :
    EndsWith result (rest.map Message.sending) failure := by
  refine ⟨hresult, fun sending hmem ↦ ?_⟩
  obtain ⟨later, hlater, rfl⟩ := List.mem_map.1 hmem
  by_cases hnotice : later.sending.request.OfNotice
  · exact .inl hnotice
  · obtain ⟨call, hcall⟩ := Message.exists_exchange hnotice
    obtain ⟨between, after, rfl⟩ := List.append_of_mem hlater
    have hsplit : past ++ message :: (between ++ later :: after) =
        (past ++ message :: between) ++ later :: after := by simp
    have hrests : Rests key (past ++ message :: between) call :=
      hlawful _ later after _ hsplit hcall
    have htroubled : ¬Untroubled (past ++ message :: between) := by
      intro huntroubled
      have hmem : exchange ∈ exchangesOf (past ++ message :: between) := by
        simp [exchangesOf, hmessage]
      rw [huntroubled exchange hmem] at hfailure
      cases hfailure
    have hrequest := (Message.of_exchange? hcall).1
    cases call with
    | readGhost place => exact absurd hrests.2 (by simp)
    | writeStatus ghost status => exact .inr (concerns_requestOf hrequest).method
    | find kind place => exact absurd hrests.2 htroubled
    | change write => exact absurd hrests.1 htroubled

/-- The write of a child that ends the round whenever it fails is carried by its request. -/
theorem carries_of_ends {write : Write} {rest : List Sending} {sending : Sending}
    (hrequest : requestOf (.change write) = .ok sending.request)
    (hends : ∀ failure, replyOf (.change write) sending.response = .error failure →
      EndsWith result rest failure) :
    Carries write result rest sending where
  request := hrequest
  failed := hends
  missing := by
    intro reply hresponse hcode
    have hwrite : write.name.isWrite = true := by
      rcases write with ⟨kind, object⟩ | deployment | place <;> rfl
    obtain ⟨failure, hfailure, hmissing⟩ := exists_missing (.change write) hwrite hcode
    rw [hresponse] at hends
    exact ⟨failure, hmissing, hends failure hfailure⟩

/-- A write that the blog wants after what was found last is disciplined. -/
theorem disciplined_of_wants {ghost : Ghost} {kind : ChildKind} {live : Option kind.Object}
    {write : Write} {rest : List Sending} {sending : Sending} (hopened : OpenedWith key ghost past)
    (hfound : FoundLast key.namespaceName kind live past)
    (hwants : ghost.Wants key.namespaceName kind live write)
    (hmethod : sending.request.method = CallName.method write.name)
    (hcarries : Carries write result rest sending) :
    Disciplined key result (past.map Message.sending) rest sending := by
  obtain ⟨reply, hlast, hread⟩ := hfound.lookedUp
  cases hwants with
  | @creation kind owner howner hwanted =>
    have hsame (hteam : ghost.team = key.namespaceName) :
        Key.ofMetadata (kind.metadata (ghost.childOf owner kind)) =
          ⟨key.namespaceName, kind.childName key.namespaceName⟩ := by
      rw [Ghost.metadata_childOf, hteam]
      rfl
    exact .creation hmethod hopened.readFirst hlast (absent_of_readFound hread) hcarries hsame
  | replacement hdrifted => exact .replacement hmethod hlast (found_of_readFound hread) hcarries
  | removal hunwanted => exact .removal hmethod hlast (found_of_readFound hread) hcarries

/-- A request that rests on what it should is disciplined, where failed calls have decided how the
round ends. -/
theorem disciplined_of_rests {call : Call}
    (hlawful : Lawful (Rests key) (past ++ message :: rest))
    (hdecided : Decided (past ++ message :: rest) result)
    (hmessage : message.exchange? = some ⟨call, replyOf call message.sending.response⟩) :
    Disciplined key result (past.map Message.sending) (rest.map Message.sending)
      message.sending := by
  have hrests : Rests key past call := hlawful past message rest _ rfl hmessage
  have hrequest : requestOf call = .ok message.sending.request :=
    (Message.of_exchange? hmessage).1
  have hmethod : message.sending.request.method = CallName.method call.name :=
    (concerns_requestOf hrequest).method
  have hmem : ⟨call, replyOf call message.sending.response⟩ ∈
      exchangesOf (past ++ message :: rest) :=
    List.mem_filterMap.2 ⟨message, by simp, hmessage⟩
  have hends (hname : call.name ≠ .writeStatus) (failure : Failure)
      (hreply : replyOf call message.sending.response = .error failure) :
      EndsWith result (rest.map Message.sending) failure := by
    have hfailure := Exchange.failure?_eq_some_iff.2 hreply
    exact endsWith_of_failure hlawful hmessage hfailure ((hdecided _ hmem _ hfailure).2 hname)
  cases call with
  | readGhost place =>
    obtain ⟨rfl, rfl⟩ := hrests
    refine .blog hmethod hrequest rfl (taken_of_ends fun failure hfailure ↦ hends (by nofun) _ ?_)
    exact congrArg (Except.mapError Failure.cluster) hfailure
  | find kind place =>
    obtain ⟨rfl, -⟩ := hrests
    refine .child hmethod hrequest (taken_of_ends fun failure hfailure ↦ hends (by nofun) _ ?_)
    exact congrArg (Except.mapError Failure.cluster) hfailure
  | change write =>
    obtain ⟨-, ghost, live, hopened, hfound, hwants⟩ := hrests
    have hname : write.name ≠ .writeStatus := by
      rcases write with ⟨kind, object⟩ | deployment | place <;> nofun
    exact disciplined_of_wants hopened hfound hwants hmethod
      (carries_of_ends hrequest (hends hname))
  | writeStatus ghost status =>
    refine .status hmethod fun reply hresponse hcode ↦ ?_
    obtain ⟨failure, hreply, -⟩ := exists_missing (.writeStatus ghost status) rfl hcode
    rw [← hresponse] at hreply
    exact (hdecided _ hmem failure (Exchange.failure?_eq_some_iff.2 hreply)).1

end Records

/-- Every request of a round that is not about a notice is disciplined, whatever the server does:
a child is created only just after the lookup of the team's child has been refused with code 404, it
is replaced or removed only just after a lookup has found it, any other answer to a lookup ends the
round, and code 404 is a failure where anything is written. -/
theorem absence_disciplined {σ : Type} (transport : Transport σ) (instant now : Instant)
    (key : Key) (session : Session σ) {past rest : List Sending} {sending : Sending}
    (hsplit : sendings transport instant (reconcile key now) session = past ++ sending :: rest)
    (hother : ¬sending.request.OfNotice) :
    Disciplined key ((reconcile key now).run (environment transport instant) session).result past
      rest sending := by
  obtain ⟨messages, hmessages, hlawful, hdecided⟩ :=
    sends_run transport (decided_reconcile key now) Lawful.nil instant
      ⟨session.recorder, session.server, []⟩ rfl
  obtain ⟨hresult, -, -⟩ :=
    run_recorded transport instant (reconcile key now) ⟨session.recorder, session.server, []⟩
  have hrecord : messages.map Message.sending = past ++ sending :: rest :=
    hmessages.symm.trans hsplit
  obtain ⟨before, others, rfl, rfl, hothers⟩ := List.map_eq_append_iff.1 hrecord
  obtain ⟨message, after, rfl, rfl, rfl⟩ := List.map_eq_cons_iff.1 hothers
  obtain ⟨call, hmessage⟩ := Message.exists_exchange hother
  rw [hresult] at hdecided
  exact disciplined_of_rests hlawful hdecided hmessage

/-! ### Rounds against a bare server -/

/-- A server that has what is in a list, by path, and nothing else, and that accepts no write. -/
def bareServer (objects : List (String × String)) : Transport Unit where
  send request server :=
    let reply : Reply :=
      if request.method = .get then
        match objects.lookup request.address.path with
        | some content => ⟨200, content.toUTF8.data.toList⟩
        | none => ⟨404, []⟩
      else ⟨500, []⟩
    (.ok reply, server)

/-- The session in which the rounds against a bare server begin. -/
def bareSession : Session Unit := ⟨⟨"ghost-controller", none, []⟩, ()⟩

/-- What is sent in a round for the blog of the team `marketing` against a bare server. -/
def bareRecord (objects : List (String × String)) : List Sending :=
  sendings (bareServer objects) .epoch (reconcile ⟨"marketing", "blog"⟩ .epoch) bareSession

/-- A blog that says in which namespace it is, where the one of the team `marketing` is found. -/
def blogIn (namespaceName : String) : String × String :=
  ("/apis/marketing.kb.dev/v1/namespaces/marketing/ghosts/blog",
    "\x7b\"metadata\":\x7b\"name\":\"blog\",\"uid\":\"7\",\"namespace\":\"" ++ namespaceName ++
      "\"\x7d,\"spec\":\x7b\"imageTag\":\"5\",\"replicas\":1\x7d\x7d")

/-- The volume claim of the team `marketing`. -/
def bareClaim : String × String :=
  ("/api/v1/namespaces/marketing/persistentvolumeclaims/ghost-data-pvc-marketing", "\x7b\x7d")

/-- A deployment of another namespace, where the one of the team `marketing` is found. -/
def otherDeployment : String × String :=
  ("/apis/apps/v1/namespaces/marketing/deployments/ghost-deployment-marketing",
    "\x7b\"metadata\":\x7b\"name\":\"other\",\"namespace\":\"other\"\x7d\x7d")

/-- The method and the path of what was sent. -/
def Sending.outline (sending : Sending) : Method × String :=
  (sending.request.method, sending.request.address.path)

/-- Two things were sent one after the other if their outlines follow one another. -/
theorem exists_of_outlines {record : List Sending} {before after : List (Method × String)}
    {first second : Method × String}
    (hrecord : record.map Sending.outline = before ++ first :: second :: after) :
    ∃ past lookup writing rest, record = past ++ lookup :: writing :: rest ∧
      lookup.outline = first ∧ writing.outline = second := by
  obtain ⟨past, others, rfl, -, hothers⟩ := List.map_eq_append_iff.1 hrecord
  obtain ⟨lookup, others, rfl, hlookup, hothers⟩ := List.map_eq_cons_iff.1 hothers
  obtain ⟨writing, rest, rfl, hwriting, -⟩ := List.map_eq_cons_iff.1 hothers
  exact ⟨past, lookup, writing, rest, rfl, hlookup, hwriting⟩

theorem not_ofNotice_of_outline {sending : Sending} {method : Method} {path : String}
    (houtline : sending.outline = (method, path))
    (hpath : ¬"/apis/events.k8s.io/".toList <+: path.toList) : ¬sending.request.OfNotice := by
  obtain rfl : sending.request.address.path = path := congrArg Prod.snd houtline
  exact hpath

set_option maxRecDepth 10000 in
/-- The discipline at the creation of a volume claim. -/
theorem absence_disciplined_marketing :
    ∃ past creation rest, bareRecord [blogIn "marketing"] = past ++ creation :: rest ∧
      ¬creation.request.OfNotice ∧
      creation.outline = (.post, "/api/v1/namespaces/marketing/persistentvolumeclaims") ∧
      Disciplined ⟨"marketing", "blog"⟩
        ((reconcile ⟨"marketing", "blog"⟩ .epoch).run
          (environment (bareServer [blogIn "marketing"]) .epoch) bareSession).result
        past rest creation := by
  have hrecord : (bareRecord [blogIn "marketing"]).map Sending.outline =
      [(.get, "/apis/marketing.kb.dev/v1/namespaces/marketing/ghosts/blog")] ++
        (.get, "/api/v1/namespaces/marketing/persistentvolumeclaims/ghost-data-pvc-marketing") ::
        (.post, "/api/v1/namespaces/marketing/persistentvolumeclaims") ::
        [(.patch, "/apis/marketing.kb.dev/v1/namespaces/marketing/ghosts/blog/status")] := by
    decide +kernel
  obtain ⟨past, lookup, creation, rest, hsplit, -, hcreation⟩ := exists_of_outlines hrecord
  have hother : ¬creation.request.OfNotice := not_ofNotice_of_outline hcreation (by decide)
  rw [List.append_cons] at hsplit
  exact ⟨past ++ [lookup], creation, rest, hsplit, hother, hcreation,
    absence_disciplined (bareServer [blogIn "marketing"]) .epoch .epoch ⟨"marketing", "blog"⟩
      bareSession hsplit hother⟩

set_option maxRecDepth 10000 in
/-- What is written need not be what was looked up. When the server gives a blog of another
namespace than it was asked for, a child is looked up in the one namespace and created in the other,
and when it gives another deployment than it was asked for, the other one is replaced. -/
theorem writes_elsewhere :
    (¬∀ past lookup creation rest,
      bareRecord [blogIn "other"] = past ++ lookup :: creation :: rest →
        creation.request.method = .post → ¬creation.request.OfNotice →
          ∃ name, lookup.request.address.path = creation.request.address.path ++ ("/" ++ name)) ∧
    ¬∀ past lookup replacement rest,
      bareRecord [blogIn "marketing", bareClaim, otherDeployment] =
          past ++ lookup :: replacement :: rest →
        replacement.request.method = .put →
          lookup.request.address.path = replacement.request.address.path := by
  constructor
  · intro hclaim
    have hrecord : (bareRecord [blogIn "other"]).map Sending.outline =
        [(.get, "/apis/marketing.kb.dev/v1/namespaces/marketing/ghosts/blog")] ++
          (.get, "/api/v1/namespaces/marketing/persistentvolumeclaims/ghost-data-pvc-marketing") ::
          (.post, "/api/v1/namespaces/other/persistentvolumeclaims") ::
          [(.patch, "/apis/marketing.kb.dev/v1/namespaces/other/ghosts/blog/status")] := by
      decide +kernel
    obtain ⟨past, lookup, creation, rest, hsplit, hlookup, hcreation⟩ := exists_of_outlines hrecord
    obtain ⟨name, hname⟩ := hclaim past lookup creation rest hsplit (congrArg Prod.fst hcreation)
      (not_ofNotice_of_outline hcreation (by decide))
    have hlead : "/api/v1/namespaces/other/persistentvolumeclaims".toList <+:
        "/api/v1/namespaces/marketing/persistentvolumeclaims/ghost-data-pvc-marketing".toList := by
      have hpath : creation.request.address.path =
          "/api/v1/namespaces/other/persistentvolumeclaims" := congrArg Prod.snd hcreation
      refine ⟨("/" ++ name).toList, ?_⟩
      rw [← String.toList_append, ← hpath, ← hname]
      exact congrArg (String.toList ∘ Prod.snd) hlookup
    revert hlead
    decide
  · intro hclaim
    have hrecord : (bareRecord [blogIn "marketing", bareClaim, otherDeployment]).map
        Sending.outline =
        [(.get, "/apis/marketing.kb.dev/v1/namespaces/marketing/ghosts/blog"),
          (.get, "/api/v1/namespaces/marketing/persistentvolumeclaims/ghost-data-pvc-marketing")] ++
          (.get, "/apis/apps/v1/namespaces/marketing/deployments/ghost-deployment-marketing") ::
          (.put, "/apis/apps/v1/namespaces/other/deployments/other") ::
          [(.patch, "/apis/marketing.kb.dev/v1/namespaces/marketing/ghosts/blog/status")] := by
      decide +kernel
    obtain ⟨past, lookup, replacement, rest, hsplit, hlookup, hreplacement⟩ :=
      exists_of_outlines hrecord
    have hsame := hclaim past lookup replacement rest hsplit (congrArg Prod.fst hreplacement)
    have hpaths : "/apis/apps/v1/namespaces/marketing/deployments/ghost-deployment-marketing" =
        "/apis/apps/v1/namespaces/other/deployments/other" :=
      (congrArg Prod.snd hlookup).symm.trans (hsame.trans (congrArg Prod.snd hreplacement))
    revert hpaths
    decide

end Http

end BlogOperator
