import BlogOperator.Cluster.Call
import BlogOperator.Kubernetes.Reference

/-!
# Notices

A `Notice` tells the users of the cluster what has been done to a child of a blog. There is one
for each write of a child that succeeded, and none for anything else.
-/

set_option autoImplicit false

namespace BlogOperator

open BlogOperator.Kubernetes

/-- Whether a notice reports that all is well. -/
inductive NoticeKind where
  | normal
  | warning
  deriving DecidableEq, Repr, Inhabited

/-- The written name of a kind of notices. -/
def NoticeKind.name : NoticeKind → String
  | .normal => "Normal"
  | .warning => "Warning"

/-- Something that users of the cluster are told about an object. -/
structure Notice where
  regarding : ObjectReference
  kind : NoticeKind
  reason : String
  action : String
  note : Option String
  deriving DecidableEq, Repr, Inhabited

/-- What has become of a child in one step. -/
inductive Outcome where
  | created
  | updated
  | deleted
  | unchanged
  deriving DecidableEq, Repr, Inhabited

namespace Write

/-- What a successful write makes of the child. -/
def outcome : Write → Outcome
  | .create _ _ => .created
  | .replace _ => .updated
  | .remove _ => .deleted

/-- What users are told has happened, in one word. -/
def reason : Write → String
  | .create .volumeClaim _ => "PVCReady"
  | .create .deployment _ => "DeploymentCreated"
  | .create .service _ => "ServiceCreated"
  | .create .ingress _ => "IngressCreated"
  | .replace _ => "DeploymentUpdated"
  | .remove _ => "IngressDeleted"

/-- What users are told has been done, in one word. -/
def action : Write → String
  | .create _ _ => "Create"
  | .replace _ => "Update"
  | .remove _ => "Delete"

/-- What users are told in a sentence. -/
def note : Write → String
  | .create kind _ => kind.label ++ " created successfully"
  | .replace _ => "Deployment updated successfully"
  | .remove _ => "Ingress deleted because ingress is disabled"

end Write

/-- A reference to a blog. -/
def Ghost.reference (ghost : Ghost) : ObjectReference where
  apiVersion := some apiVersion
  kind := some kind
  name := ghost.metadata.name
  namespaceName := ghost.metadata.namespaceName
  uid := ghost.metadata.uid

/-- The notice of a write of a blog's child. -/
def Ghost.notice (ghost : Ghost) (write : Write) : Notice where
  regarding := ghost.reference
  kind := .normal
  reason := write.reason
  action := write.action
  note := some write.note

end BlogOperator
