import BlogOperator.Json.Fault
import BlogOperator.Text.Utf8

/-!
# Failures

A `Failure` is why an operation did not come to its end. Failures that the cluster itself reported
carry an `ErrorReply` with a status code, by which a missing object and a lost race are told from
other failures.
-/

set_option autoImplicit false

namespace BlogOperator

open BlogOperator.Text

/-- The cluster's account of why it refused a request. -/
structure ErrorReply where
  status : String
  message : String
  reason : String
  code : UInt16
  deriving DecidableEq, Repr, Inhabited

/-- The account as it is shown in messages. -/
def ErrorReply.text (reply : ErrorReply) : String :=
  s!"{reply.message}: {reply.reason} (ErrorResponse \x7b status: {quoted reply.status}, " ++
    s!"message: {quoted reply.message}, reason: {quoted reply.reason}, " ++
    s!"code: {reply.code.toNat} \x7d)"

/-- Why a request cannot be sent. -/
inductive RequestFault where
  /-- The address would hold a character that no address may hold. -/
  | invalidAddress
  /-- The object has no name to address it by. -/
  | missingName
  deriving DecidableEq, Repr

/-- The sentence that reports an unsendable request. -/
def RequestFault.message : RequestFault → String
  | .invalidAddress => "failed to build request: invalid uri character"
  | .missingName => "failed to validate request: A non-empty name is required"

/-- Why a call to the cluster failed. -/
inductive ApiFailure where
  /-- The cluster refused the request. -/
  | refused (reply : ErrorReply)
  /-- The request or its answer was lost on the way. -/
  | lost (message : String)
  /-- The connection would have to be encrypted and cannot be. -/
  | unencrypted
  /-- The request could not be made. -/
  | unsendable (fault : RequestFault)
  /-- The answer is not what it should be. -/
  | unreadable (misreading : Json.Misreading)
  /-- The answer is not text. -/
  | notText (fault : Utf8Fault)
  /-- Anything else that may befall a client, with its own account of it. -/
  | other (message : String)
  deriving DecidableEq, Repr

/-- The sentence that reports a failed call. -/
def ApiFailure.message : ApiFailure → String
  | .refused reply => "ApiError: " ++ reply.text
  | .lost message => "ServiceError: " ++ message
  | .unencrypted => "TLS required but no TLS stack selected"
  | .unsendable fault => "Failed to build request: " ++ fault.message
  | .unreadable misreading => "Error deserializing response: " ++ misreading.message
  | .notText fault => "UTF-8 Error: " ++ fault.message
  | .other message => message

/-- Why an operation failed. -/
inductive Failure where
  /-- A call to the cluster failed. -/
  | cluster (failure : ApiFailure)
  /-- An object lacks an entry of its metadata that is needed. -/
  | missingKey (key : String)
  | invalidConfiguration (message : String)
  /-- A value could not be read. -/
  | serialization (message : String)
  /-- A cluster that is not reached through its interface reported an error. -/
  | api (message : String)
  deriving DecidableEq, Repr

namespace Failure

/-- The sentence that reports a failure. -/
def message : Failure → String
  | .cluster failure => "Kubernetes API error: " ++ failure.message
  | .missingKey key => "Missing object key: " ++ key
  | .invalidConfiguration message => "Invalid configuration: " ++ message
  | .serialization message => "Serialization error: " ++ message
  | .api message => "API error: " ++ message

/-- The status code of the cluster's refusal, if there is one. -/
def code : Failure → Option UInt16
  | .cluster (.refused reply) => some reply.code
  | _ => none

/-- Whether the cluster says that there is no such object. -/
def isNotFound (failure : Failure) : Bool :=
  failure.code == some 404

/-- Whether the cluster refused a write because another one came before it. -/
def isConflict (failure : Failure) : Bool :=
  failure.code == some 409

/-- An owner has no identity that a reference could name. -/
def missingIdentity : Failure :=
  .missingKey ".metadata.uid"

/-- A value that was misread. -/
def ofMisreading (misreading : Json.Misreading) : Failure :=
  .serialization misreading.message

end Failure

end BlogOperator
