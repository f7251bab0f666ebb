import BlogOperator.Http.Event
import BlogOperator.Proofs.Replies
import BlogOperator.Proofs.Rules

/-!
# What goes over the wire

A pass that is run over a transport sends requests: those of its calls, as far as they can be made,
and those of its notices. `Transport.recorded` puts on record what is sent and changes nothing else
(`run_recorded`), and `sendings` is the record of a run.

A request on record is the request of a call, or it makes a notice known (`Message`); the two are
told apart by their addresses (`Request.OfNotice`, `not_ofNotice_requestOf`). `Growth.messages` is
how the record may go on, so that a rule for passes can speak of the messages before a call. A run
of a pass that keeps such a rule leaves a record of messages that keep it too (`sends_run`).
-/

set_option autoImplicit false

namespace BlogOperator.Http

open BlogOperator.Time

/-! ### Sendings on record -/

/-- A request that was sent, with what came back. -/
structure Sending where
  request : Request
  response : Except String Reply

/-- A transport with a record of what has been sent over it. -/
def Transport.recorded {σ : Type} (transport : Transport σ) : Transport (σ × List Sending) where
  send request state :=
    let (response, server) := transport.send request state.1
    (response, server, state.2 ++ [⟨request, response⟩])

/-- All that is sent when a pass is run, in order. -/
def sendings {σ α : Type} (transport : Transport σ) (instant : Instant) (pass : Pass α)
    (session : Session σ) : List Sending :=
  (pass.run (environment transport.recorded instant)
    ⟨session.recorder, session.server, []⟩).state.server.2

section Recorded

variable {σ α : Type} (transport : Transport σ)

theorem exchange_ok (request : Request) (read : Reply → Except ApiFailure α) (state : σ) :
    exchange transport (.ok request) read state =
      (readResponse read (transport.send request state).1, (transport.send request state).2) := by
  simp only [exchange]
  rcases transport.send request state with ⟨message | reply, after⟩ <;> rfl

/-- An exchange over a recorded transport is the same exchange, and a request that can be made is
put on record. -/
theorem exchange_recorded (request : Except RequestFault Request)
    (read : Reply → Except ApiFailure α) (server : σ) (sent : List Sending) :
    exchange transport.recorded request read (server, sent) =
      ((exchange transport request read server).1, (exchange transport request read server).2,
        match request with
        | .error _ => sent
        | .ok request => sent ++ [⟨request, (transport.send request server).1⟩]) := by
  cases request with
  | error fault => rfl
  | ok request =>
    rw [exchange_ok, exchange_ok]
    rfl

theorem answer_recorded (call : Call) (server : σ) (sent : List Sending) :
    answer transport.recorded call (server, sent) =
      ((answer transport call server).1, (answer transport call server).2,
        match requestOf call with
        | .error _ => sent
        | .ok request => sent ++ [⟨request, (transport.send request server).1⟩]) := by
  unfold answer
  rw [exchange_recorded]

theorem publish_recorded (recorder : Recorder) (instant : Instant) (notice : Notice) (server : σ)
    (sent : List Sending) :
    recorder.publish transport.recorded instant notice (server, sent) =
      ((recorder.publish transport instant notice server).1,
        (recorder.publish transport instant notice server).2.1,
        (recorder.publish transport instant notice server).2.2,
        match (recorder.refreshed instant).requestOf
          ((recorder.refreshed instant).eventOf instant notice) with
        | .error _ => sent
        | .ok request => sent ++ [⟨request, (transport.send request server).1⟩]) := by
  simp only [Recorder.publish, exchange_recorded]
  rcases exchange transport _ (readObject Recorder.eventForm) server with
    ⟨failure | ⟨⟩, after⟩ <;> rfl

/-- The session that a session with a record is. -/
def Session.unrecorded (session : Session (σ × List Sending)) : Session σ :=
  ⟨session.recorder, session.server.1⟩

/-- The record has no bearing on a run. -/
theorem run_recorded (instant : Instant) (pass : Pass α) (session : Session (σ × List Sending)) :
    let recorded := pass.run (environment transport.recorded instant) session
    let run := pass.run (environment transport instant) session.unrecorded
    recorded.result = run.result ∧ recorded.happenings = run.happenings ∧
      recorded.state.unrecorded = run.state := by
  induction pass generalizing session with
  | done value => exact ⟨rfl, rfl, rfl⟩
  | call request next ih =>
    obtain ⟨recorder, server, sent⟩ := session
    simp only [Pass.run_call, environment, answer_recorded, Session.unrecorded,
      Run.result_after, Run.happenings_after, Run.state_after]
    obtain ⟨hresult, hhappenings, hstate⟩ := ih (answer transport request server).1
      ⟨recorder, (answer transport request server).2, _⟩
    exact ⟨hresult, congrArg _ hhappenings, hstate⟩
  | announce notice next ih =>
    obtain ⟨recorder, server, sent⟩ := session
    simp only [Pass.run_announce, environment, publish_recorded, Session.unrecorded,
      Run.result_after, Run.happenings_after, Run.state_after]
    obtain ⟨hresult, hhappenings, hstate⟩ := ih
      ⟨(recorder.publish transport instant notice server).2.1,
        (recorder.publish transport instant notice server).2.2, _⟩
    exact ⟨hresult, congrArg _ hhappenings, hstate⟩
  | log line next ih =>
    obtain ⟨hresult, hhappenings, hstate⟩ := ih session
    exact ⟨hresult, congrArg _ hhappenings, hstate⟩

end Recorded

/-! ### Methods and addresses -/

/-- Whether a character neither begins a query nor a fragment. -/
def isPlain (character : Char) : Bool :=
  character ≠ '#' && character ≠ '?'

/-- What an address begins with, up to where a query or a fragment may begin, is kept when it is
taken apart. -/
theorem Address.leads_ofText? {text : String} {address : Address} {lead rest : List Char}
    (haddress : Address.ofText? text = .ok address) (htext : text.toList = lead ++ rest)
    (hlead : lead.all isPlain = true) : lead <+: address.path.toList := by
  have hplain (character : Char) (hmem : character ∈ lead) :
      decide (character ≠ '#') = true ∧ decide (character ≠ '?') = true :=
    Bool.and_eq_true_iff.1 (List.all_eq_true.1 hlead character hmem)
  have hfragment (character : Char) (hmem : character ∈ lead) : decide (character ≠ '#') = true :=
    (hplain character hmem).1
  have hquery (character : Char) (hmem : character ∈ lead) : decide (character ≠ '?') = true :=
    (hplain character hmem).2
  unfold ofText? at haddress
  dsimp only at haddress
  split at haddress
  · cases haddress
    rw [String.toList_ofList, htext, List.takeWhile_append_of_pos hfragment,
      List.takeWhile_append_of_pos hquery]
    exact List.prefix_append _ _
  · cases haddress

/-- What the path of a collection begins with. -/
def Collection.lead (collection : Collection) : String :=
  "/" ++ collection.root ++ "/namespaces/"

theorem Collection.path_eq (collection : Collection) :
    collection.path =
      collection.lead ++ (collection.namespaceName ++ "/" ++ collection.plural) := by
  simp only [path, lead, String.append_assoc]
  rfl

/-- A request of a method to an address in a collection. -/
structure Request.Concerns (request : Request) (method : Method) (collection : Collection) :
    Prop where
  method : request.method = method
  address : ∃ rest, Address.ofText? (collection.path ++ rest) = .ok request.address

theorem objectPath_ok {collection : Collection} {name path : String}
    (hpath : objectPath collection name = .ok path) :
    path = collection.path ++ ("/" ++ name) := by
  unfold objectPath at hpath
  split at hpath
  · cases hpath
  · cases hpath
    exact String.append_assoc

namespace Request.Concerns

variable {request : Request} {collection : Collection} {name part : String} {object : Json}

theorem of_getRequest (hrequest : getRequest collection name = .ok request) :
    request.Concerns .get collection := by
  obtain ⟨path, hpath, hrequest⟩ := ok_of_bind hrequest
  obtain ⟨address, haddress, hrequest⟩ := ok_of_bind hrequest
  cases hrequest
  exact ⟨rfl, _, objectPath_ok hpath ▸ haddress⟩

theorem of_postRequest (hrequest : postRequest collection object = .ok request) :
    request.Concerns .post collection := by
  obtain ⟨address, haddress, hrequest⟩ := ok_of_bind hrequest
  cases hrequest
  exact ⟨rfl, _, haddress⟩

theorem of_putRequest (hrequest : putRequest collection name object = .ok request) :
    request.Concerns .put collection := by
  obtain ⟨path, hpath, hrequest⟩ := ok_of_bind hrequest
  obtain ⟨address, haddress, hrequest⟩ := ok_of_bind hrequest
  cases hrequest
  rw [objectPath_ok hpath, String.append_assoc] at haddress
  exact ⟨rfl, _, haddress⟩

theorem of_patchRequest (hrequest : patchRequest collection name part object = .ok request) :
    request.Concerns .patch collection := by
  obtain ⟨path, hpath, hrequest⟩ := ok_of_bind hrequest
  obtain ⟨address, haddress, hrequest⟩ := ok_of_bind hrequest
  cases hrequest
  rw [objectPath_ok hpath, String.append_assoc, String.append_assoc] at haddress
  exact ⟨rfl, _, haddress⟩

theorem of_deleteRequest (hrequest : deleteRequest collection name = .ok request) :
    request.Concerns .delete collection := by
  obtain ⟨path, hpath, hrequest⟩ := ok_of_bind hrequest
  obtain ⟨address, haddress, hrequest⟩ := ok_of_bind hrequest
  cases hrequest
  rw [objectPath_ok hpath, String.append_assoc] at haddress
  exact ⟨rfl, _, haddress⟩

/-- The path of a request to a collection leads to the collection. -/
theorem leads {method : Method} (hconcerns : request.Concerns method collection)
    (hplain : collection.lead.toList.all isPlain = true) :
    collection.lead.toList <+: request.address.path.toList := by
  obtain ⟨rest, haddress⟩ := hconcerns.address
  rw [collection.path_eq, String.append_assoc] at haddress
  exact Address.leads_ofText? haddress (String.toList_append ..) hplain

end Request.Concerns

/-- The collection that a call is about. -/
def Call.collection : Call → Collection
  | .readGhost key => ghosts key.namespaceName
  | .writeStatus ghost _ => ghosts ghost.metadata.namespaceOrEmpty
  | .find kind key => childCollection kind key.namespaceName
  | .change (.create kind child) => childCollection kind (kind.metadata child).namespaceOrEmpty
  | .change (.replace deployment) =>
    childCollection .deployment deployment.metadata.namespaceOrEmpty
  | .change (.remove key) => childCollection .ingress key.namespaceName

/-- The method by which a sort of calls is made. -/
def CallName.method : CallName → Method
  | .readGhost => .get
  | .writeStatus => .patch
  | .find _ => .get
  | .create _ => .post
  | .replace => .put
  | .remove => .delete

theorem concerns_requestOf {call : Call} {request : Request}
    (hrequest : requestOf call = .ok request) :
    request.Concerns (CallName.method call.name) (Call.collection call) := by
  rcases call with key | ⟨ghost, status⟩ | ⟨kind, key⟩ | ⟨kind, child⟩ | deployment | key
  · exact .of_getRequest hrequest
  · exact .of_patchRequest hrequest
  · exact .of_getRequest hrequest
  · exact .of_postRequest hrequest
  · exact .of_putRequest hrequest
  · exact .of_deleteRequest hrequest

/-! ### The addresses of notices -/

/-- A request is about an event by its address. -/
def Request.OfNotice (request : Request) : Prop :=
  "/apis/events.k8s.io/".toList <+: request.address.path.toList

instance (request : Request) : Decidable request.OfNotice :=
  inferInstanceAs (Decidable (_ <+: _))

/-- The requests that make notices known are about events. -/
theorem ofNotice_requestOf {recorder : Recorder} {event : Event} {request : Request}
    (hrequest : recorder.requestOf event = .ok request) : request.OfNotice := by
  have hplain : (Recorder.events event.notice).lead.toList.all isPlain = true := by
    change "/apis/events.k8s.io/v1/namespaces/".toList.all isPlain = true
    decide
  have hlead : (Recorder.events event.notice).lead.toList <+: request.address.path.toList := by
    unfold Recorder.requestOf at hrequest
    dsimp only at hrequest
    split at hrequest
    · exact (Request.Concerns.of_patchRequest hrequest).leads hplain
    · exact (Request.Concerns.of_postRequest hrequest).leads hplain
  refine List.IsPrefix.trans ?_ hlead
  change "/apis/events.k8s.io/".toList <+: "/apis/events.k8s.io/v1/namespaces/".toList
  decide

/-- What the paths of the requests of calls begin with. -/
def callLeads : List String := [
  "/apis/marketing.kb.dev/v1/namespaces/", "/api/v1/namespaces/", "/apis/apps/v1/namespaces/",
  "/apis/networking.k8s.io/v1/namespaces/"]

theorem lead_collection_mem (call : Call) : (Call.collection call).lead ∈ callLeads := by
  have hchild (kind : ChildKind) (team : String) :
      (childCollection kind team).lead ∈ callLeads := by
    cases kind with
    | volumeClaim => exact .tail _ (.head _)
    | deployment => exact .tail _ (.tail _ (.head _))
    | service => exact .tail _ (.head _)
    | ingress => exact .tail _ (.tail _ (.tail _ (.head _)))
  rcases call with key | ⟨ghost, status⟩ | ⟨kind, key⟩ | ⟨kind, child⟩ | deployment | key
  · exact .head _
  · exact .head _
  · exact hchild kind _
  · exact hchild kind _
  · exact hchild .deployment _
  · exact hchild .ingress _

/-- The requests of calls are not about events. -/
theorem not_ofNotice_requestOf {call : Call} {request : Request}
    (hrequest : requestOf call = .ok request) : ¬request.OfNotice := by
  intro hnotice
  have hleads : ∀ lead ∈ callLeads, lead.toList.all isPlain = true ∧
      ¬(lead.toList <+: "/apis/events.k8s.io/".toList ∨
        "/apis/events.k8s.io/".toList <+: lead.toList) := by
    decide
  obtain ⟨hplain, hapart⟩ := hleads _ (lead_collection_mem call)
  have hlead := (concerns_requestOf hrequest).leads hplain
  exact hapart (List.prefix_or_prefix_of_prefix hlead hnotice)

/-! ### Messages -/

/-- A request that is sent in a run, with what came back: the request of a call, or one that makes a
notice known. -/
inductive Message where
  | ofCall (call : Call) (request : Request) (hcall : requestOf call = .ok request)
      (response : Except String Reply)
  | ofNotice (request : Request) (hnotice : request.OfNotice) (response : Except String Reply)

namespace Message

/-- A message as it is on record. -/
def sending : Message → Sending
  | ofCall _ request _ response => ⟨request, response⟩
  | ofNotice request _ response => ⟨request, response⟩

/-- The exchange that a message is part of, if it is one of a call. -/
def exchange? : Message → Option Exchange
  | ofCall call _ _ response => some ⟨call, replyOf call response⟩
  | ofNotice _ _ _ => none

theorem of_exchange? {message : Message} {call : Call} {reply : call.Reply}
    (hmessage : message.exchange? = some ⟨call, reply⟩) :
    requestOf call = .ok message.sending.request ∧
      replyOf call message.sending.response = reply := by
  rcases message with ⟨call, request, hcall, response⟩ | ⟨request, hnotice, response⟩
  · cases hmessage
    exact ⟨hcall, rfl⟩
  · cases hmessage

/-- A message that is not about a notice is that of a call. -/
theorem exists_exchange {message : Message} (hother : ¬message.sending.request.OfNotice) :
    ∃ call, message.exchange? = some ⟨call, replyOf call message.sending.response⟩ := by
  rcases message with ⟨call, request, hcall, response⟩ | ⟨request, hnotice, response⟩
  · exact ⟨call, rfl⟩
  · exact absurd hnotice hother

end Message

/-- How the messages go on when a call has got a reply: its request has been sent, or it cannot be
made and the call has failed. -/
inductive Issued (past : List Message) (call : Call) (reply : call.Reply) : List Message → Prop
  | unsent (fault : RequestFault) (hreply : reply = .error (.cluster (.unsendable fault))) :
      Issued past call reply past
  | sent (message : Message) (hmessage : message.exchange? = some ⟨call, reply⟩) :
      Issued past call reply (past ++ [message])

/-- How the messages go on when a notice has been made known, or has not been. -/
inductive Announced (past : List Message) : List Message → Prop
  | unsent : Announced past past
  | sent (message : Message) (hmessage : message.exchange? = none) :
      Announced past (past ++ [message])

end BlogOperator.Http

/-- A record of the messages, in order. -/
def BlogOperator.Growth.messages : BlogOperator.Growth (List BlogOperator.Http.Message) where
  called past request reply later := BlogOperator.Http.Issued past request reply later
  announced past later := BlogOperator.Http.Announced past later

namespace BlogOperator.Http

open BlogOperator.Time

/-- The calls among the messages keep a rule, each given the messages before it. -/
def Lawful (rule : List Message → Call → Prop) (messages : List Message) : Prop :=
  ∀ before message after exchange, messages = before ++ message :: after →
    message.exchange? = some exchange → rule before exchange.request

section Lawful

variable {rule : List Message → Call → Prop} {past : List Message} {message : Message}

theorem Lawful.nil : Lawful rule [] := by
  intro before message after exchange hsplit
  exact absurd hsplit (by simp)

theorem Lawful.concat (hpast : Lawful rule past)
    (hmessage : ∀ exchange, message.exchange? = some exchange → rule past exchange.request) :
    Lawful rule (past ++ [message]) := by
  intro before other after exchange hsplit hexchange
  rcases List.eq_nil_or_concat after with rfl | ⟨between, last, rfl⟩
  · obtain ⟨rfl, hlast⟩ := List.append_inj' hsplit rfl
    cases hlast
    exact hmessage exchange hexchange
  · rw [List.concat_eq_append, ← List.cons_append, ← List.append_assoc] at hsplit
    exact hpast before other between exchange (List.append_inj_left' hsplit rfl) hexchange

end Lawful

variable {σ α : Type} (transport : Transport σ) {rule : List Message → Call → Prop}
  {ensured : List Message → α → Prop} {past : List Message} {pass : Pass α}

/-- What a call leaves on record is what the messages go on with. -/
theorem issued_answer (call : Call) (server : σ) {sent : List Sending}
    (hsent : sent = past.map Message.sending) :
    ∃ later, Issued past call (answer transport.recorded call (server, sent)).1 later ∧
      (answer transport.recorded call (server, sent)).2.2 = later.map Message.sending := by
  rw [answer_recorded]
  cases hrequest : requestOf call with
  | error fault =>
    refine ⟨past, .unsent fault ?_, hsent⟩
    simp only [answer, hrequest, exchange]
    rfl
  | ok request =>
    refine ⟨past ++ [.ofCall call request hrequest (transport.send request server).1],
      .sent _ ?_, by simp [hsent, Message.sending]⟩
    simp only [answer, hrequest, exchange_ok]
    rfl

theorem announced_publish (recorder : Recorder) (instant : Instant) (notice : Notice) (server : σ)
    {sent : List Sending} (hsent : sent = past.map Message.sending) :
    ∃ later, Announced past later ∧
      (recorder.publish transport.recorded instant notice (server, sent)).2.2.2 =
        later.map Message.sending := by
  rw [publish_recorded]
  cases hrequest : (recorder.refreshed instant).requestOf
      ((recorder.refreshed instant).eventOf instant notice) with
  | error fault => exact ⟨past, .unsent, hsent⟩
  | ok request =>
    exact ⟨past ++ [.ofNotice request (ofNotice_requestOf hrequest)
        (transport.send request server).1],
      .sent _ rfl, by simp [hsent, Message.sending]⟩

/-- A run leaves a record of messages that keep the rule, and of all of them holds what the pass
ensures. -/
theorem sends_run (hpass : pass.Keeps .messages rule ensured past) (hpast : Lawful rule past)
    (instant : Instant) (session : Session (σ × List Sending))
    (hsent : session.server.2 = past.map Message.sending) :
    let run := pass.run (environment transport.recorded instant) session
    ∃ messages, run.state.server.2 = messages.map Message.sending ∧ Lawful rule messages ∧
      ensured messages run.result := by
  induction pass generalizing past session with
  | done value => exact ⟨past, hsent, hpast, hpass⟩
  | call request next ih =>
    obtain ⟨recorder, server, sent⟩ := session
    obtain ⟨later, hissued, hlater⟩ := issued_answer transport request server hsent
    have hlawful : Lawful rule later := by
      cases hissued with
      | unsent fault hreply => exact hpast
      | sent message hmessage =>
        refine hpast.concat fun exchange hexchange ↦ ?_
        cases hmessage.symm.trans hexchange
        exact hpass.1
    exact ih _ (hpass.2 _ later hissued) hlawful _ hlater
  | announce notice next ih =>
    obtain ⟨recorder, server, sent⟩ := session
    obtain ⟨later, hannounced, hlater⟩ :=
      announced_publish transport recorder instant notice server hsent
    have hlawful : Lawful rule later := by
      cases hannounced with
      | unsent => exact hpast
      | sent message hmessage =>
        refine hpast.concat fun exchange hexchange ↦ ?_
        cases hmessage.symm.trans hexchange
    exact ih (hpass later hannounced) hlawful _ hlater
  | log line next ih => exact ih hpass hpast session hsent

end BlogOperator.Http
