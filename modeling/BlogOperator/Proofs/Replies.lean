import BlogOperator.Http.Api

/-!
# What replies are read as

`replyOf` is what comes of a call whose request has got a response. `Reply.errorCode?` is the code
that a reply reports, whatever its status and its body are. A lookup that is refused with code 404
has found nothing (`readFound_of_absent`), and in all other cases a lookup gives what is read from
the reply (`readFound_of_other`). A write that is refused has failed, with code 404 like with any
other (`exists_missing`).
-/

set_option autoImplicit false

namespace BlogOperator.Http

open BlogOperator.Json BlogOperator.Kubernetes BlogOperator.Text

/-! ### Composed readings -/

section Composed

variable {ε δ α β : Type} {first : Except ε α}

theorem ok_of_bind {next : α → Except ε β} {value : β} (hbind : first >>= next = .ok value) :
    ∃ middle, first = .ok middle ∧ next middle = .ok value := by
  cases first with
  | error failure => cases hbind
  | ok middle => exact ⟨middle, rfl, hbind⟩

theorem ok_of_map {change : α → β} {value : β} (hmap : first.map change = .ok value) :
    ∃ middle, first = .ok middle ∧ change middle = value := by
  cases first with
  | error failure => cases hmap
  | ok middle => exact ⟨middle, rfl, Except.ok.inj hmap⟩

theorem ok_of_mapError {change : ε → δ} {value : α} (hmap : first.mapError change = .ok value) :
    first = .ok value := by
  cases first with
  | error failure => cases hmap
  | ok middle => exact congrArg _ (Except.ok.inj hmap)

@[simp] theorem mapError_error (failure : ε) (change : ε → δ) :
    (.error failure : Except ε α).mapError change = .error (change failure) := rfl

@[simp] theorem mapError_ok (value : α) (change : ε → δ) :
    (.ok value : Except ε α).mapError change = .ok value := rfl

end Composed

/-! ### Responses -/

/-- What a response is read as. -/
def readResponse {α : Type} (read : Reply → Except ApiFailure α) :
    Except String Reply → Except ApiFailure α
  | .error message => .error (.lost message)
  | .ok reply => read reply

/-- What comes of a call whose request has got a response. -/
def replyOf (call : Call) (response : Except String Reply) : call.Reply :=
  (readResponse (readReply call) response).mapError .cluster

/-- A call is answered by a reply that is read so. -/
theorem exists_reply {call : Call} {answer : call.Answer} {response : Except String Reply}
    (hanswer : replyOf call response = .ok answer) :
    ∃ reply, response = .ok reply ∧ readReply call reply = .ok answer := by
  have hread : readResponse (readReply call) response = .ok answer := ok_of_mapError hanswer
  rcases response with message | reply
  · cases hread
  · exact ⟨reply, rfl, hread⟩

/-! ### Reported codes -/

/-- The code that a reply reports if it is a refusal: the one in its body, or its status where the
body is some other text than an error reply. -/
def Reply.errorCode? (reply : Reply) : Option UInt16 :=
  if isRefusal reply.status then
    match decodeUtf8 reply.body with
    | .error _ => none
    | .ok body =>
      match errorForm.parse body with
      | .ok refusal => some refusal.code
      | .error _ => some (UInt16.ofNat reply.status)
  else none

section Codes

variable {α : Type} {form : Form α} {reply : Reply}

/-- A reply reports a code just when the client takes it for a refusal with that code. -/
theorem errorCode?_eq_some_iff {code : UInt16} :
    reply.errorCode? = some code ↔
      ∃ refusal, accepted reply = .error (.refused refusal) ∧ refusal.code = code := by
  unfold Reply.errorCode? accepted textOf
  rcases decodeUtf8 reply.body with fault | body
  · simp [bind, Except.bind]
  · by_cases hrefusal : isRefusal reply.status
    · rcases hparse : errorForm.parse body with fault | refusal <;>
        simp [hrefusal, hparse, bind, Except.bind, throw, throwThe, MonadExceptOf.throw]
    · simp [hrefusal, bind, Except.bind, pure, Except.pure]

/-- An object is refused just when its reply is: a body that cannot be read is another failure. -/
theorem readObject_refused_iff {refusal : ErrorReply} :
    readObject form reply = .error (.refused refusal) ↔
      accepted reply = .error (.refused refusal) := by
  unfold readObject
  rcases accepted reply with failure | content
  · simp [bind, Except.bind]
  · rcases hparse : form.parse content with misreading | object <;>
      simp [hparse, bind, Except.bind]

theorem readObject_of_accepted {failure : ApiFailure}
    (haccepted : accepted reply = .error failure) :
    readObject form reply = .error failure := by
  unfold readObject
  rw [haccepted]
  rfl

theorem readFound_of_absent (habsent : reply.errorCode? = some 404) :
    readFound form reply = .ok none := by
  obtain ⟨refusal, hrefused, hcode⟩ := errorCode?_eq_some_iff.1 habsent
  unfold readFound
  rw [readObject_of_accepted hrefused]
  exact if_pos hcode

theorem readFound_of_other (hother : reply.errorCode? ≠ some 404) :
    readFound form reply = (readObject form reply).map some := by
  unfold readFound
  rcases hobject : readObject form reply with failure | object
  · cases failure with
    | refused refusal =>
      have hcode : refusal.code ≠ 404 := fun hcode ↦
        hother (errorCode?_eq_some_iff.2 ⟨refusal, readObject_refused_iff.1 hobject, hcode⟩)
      exact if_neg hcode
    | _ => rfl
  · rfl

/-- A write whose reply is refused has failed in the same way, whatever is written. -/
theorem readWritten_of_accepted {failure : ApiFailure} (haccepted : accepted reply = .error failure)
    (write : Write) : readWritten write reply = .error failure := by
  rcases write with ⟨kind, object⟩ | deployment | place
  · exact congrArg discard (readObject_of_accepted haccepted)
  · exact congrArg discard (readObject_of_accepted haccepted)
  · change readRemoval Ingress.form reply = _
    unfold readRemoval
    rw [haccepted]
    rfl

/-- A lookup ends in nothing only if it is refused with code 404. -/
theorem absent_of_readFound (hnothing : readFound form reply = .ok none) :
    reply.errorCode? = some 404 := by
  by_cases habsent : reply.errorCode? = some 404
  · exact habsent
  · rw [readFound_of_other habsent] at hnothing
    obtain ⟨object, -, hsome⟩ := ok_of_map hnothing
    cases hsome

/-- What a lookup has found is the object in the reply. -/
theorem found_of_readFound {object : α} (hobject : readFound form reply = .ok (some object)) :
    readObject form reply = .ok object := by
  have hother : reply.errorCode? ≠ some 404 := by
    intro habsent
    rw [readFound_of_absent habsent] at hobject
    cases hobject
  rw [readFound_of_other hother] at hobject
  obtain ⟨other, hread, hsome⟩ := ok_of_map hobject
  rw [hread, Option.some.inj hsome]

/-- A write that is refused with code 404 has failed with it, be it that of a child or that of the
status. -/
theorem exists_missing (call : Call) (hwrite : call.name.isWrite = true)
    (hcode : reply.errorCode? = some 404) :
    ∃ failure, replyOf call (.ok reply) = .error failure ∧ failure.isNotFound = true := by
  obtain ⟨refusal, hrefused, hrefusal⟩ := errorCode?_eq_some_iff.1 hcode
  have hread : readReply call reply = .error (.refused refusal) := by
    cases call with
    | readGhost key => cases hwrite
    | find kind key => cases hwrite
    | writeStatus ghost status => exact congrArg discard (readObject_of_accepted hrefused)
    | change write => exact readWritten_of_accepted hrefused write
  refine ⟨.cluster (.refused refusal), congrArg (Except.mapError Failure.cluster) hread, ?_⟩
  simp [Failure.isNotFound, Failure.code, hrefusal]

end Codes

end BlogOperator.Http
