import BlogOperator.Child.Kind
import BlogOperator.Cluster.Key
import BlogOperator.Failure
import BlogOperator.Ghost.Basic

/-!
# Calls to a cluster

A `Call` is one request of the controller to the cluster, and `Call.Answer` is what a successful
call gives back. The calls that write a child are apart as `Write`: a child is created, a
deployment is replaced, or an ingress is removed.
-/

set_option autoImplicit false

namespace BlogOperator

open BlogOperator.Kubernetes

/-- A write of a child. -/
inductive Write where
  | create (kind : ChildKind) (object : kind.Object)
  | replace (deployment : Deployment)
  | remove (key : Key)

/-- The kind of the child that is written. -/
def Write.kind : Write → ChildKind
  | .create kind _ => kind
  | .replace _ => .deployment
  | .remove _ => .ingress

/-- A request to the cluster. -/
inductive Call where
  /-- Looks a blog up. -/
  | readGhost (key : Key)
  /-- Writes the status of a blog, provided that the blog is still of the version given. -/
  | writeStatus (ghost : Ghost) (status : GhostStatus)
  /-- Looks a child up. -/
  | find (kind : ChildKind) (key : Key)
  /-- Writes a child. -/
  | change (write : Write)

/-- What a successful call gives back. -/
abbrev Call.Answer : Call → Type
  | .readGhost _ => Option Ghost
  | .writeStatus _ _ => Unit
  | .find kind _ => Option kind.Object
  | .change _ => Unit

/-- What comes of a call: its answer or why it failed. -/
abbrev Call.Reply (call : Call) : Type := Except Failure call.Answer

/-- The sorts of calls. -/
inductive CallName where
  | readGhost
  | writeStatus
  | find (kind : ChildKind)
  | create (kind : ChildKind)
  | replace
  | remove
  deriving DecidableEq, Repr

/-- The sort of a write. -/
def Write.name : Write → CallName
  | .create kind _ => .create kind
  | .replace _ => .replace
  | .remove _ => .remove

/-- The sort of a call. -/
def Call.name : Call → CallName
  | .readGhost _ => .readGhost
  | .writeStatus _ _ => .writeStatus
  | .find kind _ => .find kind
  | .change write => write.name

/-- Whether calls of this sort change the cluster. -/
def CallName.isWrite : CallName → Bool
  | .readGhost => false
  | .find _ => false
  | _ => true

end BlogOperator
