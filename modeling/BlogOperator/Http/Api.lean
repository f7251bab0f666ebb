import BlogOperator.Cluster.Call
import BlogOperator.Ghost.Wire
import BlogOperator.Http.Message
import BlogOperator.Http.Status
import BlogOperator.Text.Quoted

/-!
# Calls over the wire

How each call to the cluster is put into a request (`requestOf`) and what the reply means
(`readReply`). A refusal carries an error reply; a body that is not one is quoted in one made up
from the status. A lookup that is refused with code 404 has found nothing, and that is the only
refusal which is not a failure. A removal may be answered with the object or with a status.
-/

set_option autoImplicit false

namespace BlogOperator.Http

open BlogOperator.Json BlogOperator.Kubernetes BlogOperator.Text

/-! ### Addresses of objects -/

/-- Where the objects of one kind in one namespace are found. -/
structure Collection where
  /-- The front of the address, by the group and version of the kind. -/
  root : String
  namespaceName : String
  plural : String

/-- The path of a collection. -/
def Collection.path (collection : Collection) : String :=
  s!"/{collection.root}/namespaces/{collection.namespaceName}/{collection.plural}"

/-- The blogs of a namespace. -/
def ghosts (namespaceName : String) : Collection :=
  ⟨s!"apis/{Ghost.apiVersion}", namespaceName, Ghost.plural⟩

/-- The children of a kind in a namespace. -/
def childCollection (kind : ChildKind) (namespaceName : String) : Collection :=
  match kind with
  | .volumeClaim => ⟨s!"api/{VolumeClaim.apiVersion}", namespaceName, "persistentvolumeclaims"⟩
  | .deployment => ⟨s!"apis/{Deployment.apiVersion}", namespaceName, "deployments"⟩
  | .service => ⟨s!"api/{Service.apiVersion}", namespaceName, "services"⟩
  | .ingress => ⟨s!"apis/{Ingress.apiVersion}", namespaceName, "ingresses"⟩

/-- The address of an object, which must have a name. -/
def objectPath (collection : Collection) (name : String) : Except RequestFault String :=
  if name = "" then .error .missingName else .ok s!"{collection.path}/{name}"

/-! ### Requests -/

/-- The kind of text that whole objects are sent as. -/
def objectContent : String := "application/json"

/-- The kind of text that changes to be merged into an object are sent as. -/
def mergeContent : String := "application/merge-patch+json"

/-- Looks an object up. -/
def getRequest (collection : Collection) (name : String) : Except RequestFault Request := do
  let address ← Address.ofText? (← objectPath collection name)
  return ⟨.get, address, none, none⟩

/-- Creates an object. -/
def postRequest (collection : Collection) (object : Json) : Except RequestFault Request := do
  let address ← Address.ofText? (collection.path ++ "?")
  return ⟨.post, address, some objectContent, some object⟩

/-- Replaces an object. -/
def putRequest (collection : Collection) (name : String) (object : Json) :
    Except RequestFault Request := do
  let address ← Address.ofText? ((← objectPath collection name) ++ "?")
  return ⟨.put, address, some objectContent, some object⟩

/-- Merges changes into an object, or into a part of it that has an address of its own. -/
def patchRequest (collection : Collection) (name part : String) (changes : Json) :
    Except RequestFault Request := do
  let address ← Address.ofText? ((← objectPath collection name) ++ part ++ "?")
  return ⟨.patch, address, some mergeContent, some changes⟩

/-- Removes an object. -/
def deleteRequest (collection : Collection) (name : String) : Except RequestFault Request := do
  let address ← Address.ofText? ((← objectPath collection name) ++ "?")
  return ⟨.delete, address, some objectContent, some (.object [])⟩

/-- The changes that write a blog's status. The version makes the server refuse them where the blog
has been written since. -/
def statusChanges (ghost : Ghost) (status : GhostStatus) : Json :=
  .object [
    ("metadata", .object [
      ("resourceVersion", (ghost.metadata.resourceVersion.map Json.text).getD .null)]),
    ("status", GhostStatus.codec.write status)]

/-- The request of a write. -/
def requestOfWrite : Write → Except RequestFault Request
  | .create kind child =>
    postRequest (childCollection kind (kind.metadata child).namespaceOrEmpty) (kind.write child)
  | .replace deployment =>
    putRequest (childCollection .deployment deployment.metadata.namespaceOrEmpty)
      deployment.metadata.nameOrEmpty deployment.write
  | .remove key => deleteRequest (childCollection .ingress key.namespaceName) key.name

/-- The request of a call. -/
def requestOf : Call → Except RequestFault Request
  | .readGhost key => getRequest (ghosts key.namespaceName) key.name
  | .writeStatus ghost status =>
    patchRequest (ghosts ghost.metadata.namespaceOrEmpty) ghost.metadata.nameOrEmpty "/status"
      (statusChanges ghost status)
  | .find kind key => getRequest (childCollection kind key.namespaceName) key.name
  | .change write => requestOfWrite write

/-! ### Replies -/

/-- The members of an error reply. -/
def errorRecord : Record (String × String × String × UInt16 × Unit) :=
  .cons (.required "status" .string) <|
  .cons (.assumed "message" .string "") <|
  .cons (.assumed "reason" .string "") <|
  .cons (.required "code" .uint16) .done

/-- An error reply as it is read. -/
def errorForm : Form ErrorReply :=
  (errorRecord.form (.lenient "ErrorResponse" 4)).map fun (status, message, reason, code, ()) ↦
    ⟨status, message, reason, code⟩

/-- The text of a reply. -/
def textOf (reply : Reply) : Except ApiFailure String :=
  (decodeUtf8 reply.body).mapError .notText

/-- The text of a reply to a request that was not refused. -/
def accepted (reply : Reply) : Except ApiFailure String := do
  let text ← textOf reply
  if isRefusal reply.status then
    match errorForm.parse text with
    | .ok refusal => throw (.refused refusal)
    | .error _ =>
      throw (.refused ⟨statusText reply.status, quoted text, "Failed to parse error data",
        UInt16.ofNat reply.status⟩)
  else return text

/-- The object in a reply. -/
def readObject {α : Type} (form : Form α) (reply : Reply) : Except ApiFailure α := do
  let text ← accepted reply
  (form.parse text).mapError .unreadable

/-- The object in the reply to a lookup, if one was found. -/
def readFound {α : Type} (form : Form α) (reply : Reply) : Except ApiFailure (Option α) :=
  match readObject form reply with
  | .ok found => .ok (some found)
  | .error (.refused refusal) =>
    if refusal.code = 404 then .ok none else .error (.refused refusal)
  | .error failure => .error failure

/-- A text that may be missing. -/
def looseText (name : String) : Member String :=
  .readOnly name .string (some "")

/-- A value that may be missing or null. -/
def looseValue {α : Type} (name : String) (form : Form α) : Member (Option α) :=
  .readOnly name form.nullable (some none)

/-- A cause in a status. -/
def causeForm : Form Unit :=
  (Record.form
    (.cons (looseText "reason") <|
      .cons (looseText "message") <|
      .cons (looseText "field") .done)
    (.lenient "StatusCause" 3)).map fun _ ↦ ()

/-- The details of a status. -/
def detailsForm : Form Unit :=
  (Record.form
    (.cons (looseText "name") <|
      .cons (looseText "group") <|
      .cons (looseText "kind") <|
      .cons (looseText "uid") <|
      .cons (.readOnly "causes" (.list causeForm) (some [])) <|
      .cons (.readOnly "retryAfterSeconds" .uint32 (some 0)) .done)
    (.lenient "StatusDetails" 6)).map fun _ ↦ ()

/-- The status with which a removal may be answered. Nothing of it is needed but that it is one. -/
def statusForm : Form Unit :=
  (Record.form
    (.cons (looseValue "status" (.choice [("Success", ()), ("Failure", ())])) <|
      .cons (.readOnly "code" .uint16 (some 0)) <|
      .cons (looseText "message") <|
      .cons (looseText "reason") <|
      .cons (looseValue "details" detailsForm) .done)
    (.lenient "Status" 5)).map fun _ ↦ ()

/-- Checks the reply to a removal: a status, or the object removed. -/
def readRemoval {α : Type} (form : Form α) (reply : Reply) : Except ApiFailure Unit := do
  let text ← accepted reply
  let json ← (Form.anything.parse text).mapError .unreadable
  if json.get? "kind" == some (.text "Status") then
    (statusForm.parse text).mapError .unreadable
  else
    discard ((form.parse text).mapError .unreadable)

/-- Checks the reply to a write. -/
def readWritten : Write → Reply → Except ApiFailure Unit
  | .create kind _, reply => discard (readObject kind.form reply)
  | .replace _, reply => discard (readObject Deployment.form reply)
  | .remove _, reply => readRemoval Ingress.form reply

/-- What the reply to a call means. -/
def readReply : (call : Call) → Reply → Except ApiFailure call.Answer
  | .readGhost _, reply => readFound Ghost.form reply
  | .writeStatus _ _, reply => discard (readObject Ghost.form reply)
  | .find kind _, reply => readFound kind.form reply
  | .change write, reply => readWritten write reply

/-! ### Sending -/

/-- Sends a request and reads the reply. -/
def exchange {σ α : Type} (transport : Transport σ) (request : Except RequestFault Request)
    (read : Reply → Except ApiFailure α) (state : σ) : Except ApiFailure α × σ :=
  match request with
  | .error fault => (.error (.unsendable fault), state)
  | .ok request =>
    match transport.send request state with
    | (.error message, state) => (.error (.lost message), state)
    | (.ok reply, state) => (read reply, state)

/-- Answers a call over a transport. -/
def answer {σ : Type} (transport : Transport σ) (call : Call) (state : σ) : call.Reply × σ :=
  let (result, state) := exchange transport (requestOf call) (readReply call) state
  (result.mapError .cluster, state)

end BlogOperator.Http
