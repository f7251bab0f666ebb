import BlogOperator.Ghost.Condition
import BlogOperator.Kubernetes.Metadata

/-!
# The declared blog

A `Ghost` declares one blog: which version of it to run, how many copies, and whether it is to be
reachable from outside. Its namespace is the team it belongs to, and the names of all its children
follow from the team, so that a team has one blog. The status is written by this library only.
-/

set_option autoImplicit false

namespace BlogOperator

open BlogOperator.Kubernetes

/-- What a team asks for. -/
structure GhostSpec where
  /-- The tag of the container image. -/
  imageTag : String
  /-- The number of pods. -/
  replicas : Int32
  /-- Whether requests from outside are routed to the blog. -/
  enableIngress : Bool
  deriving DecidableEq, Repr, Inhabited

/-- What was last found out about a blog. -/
structure GhostStatus where
  /-- At most one condition of each type, in the order in which the types first came up. -/
  conditions : List Condition := []
  deriving DecidableEq, Repr, Inhabited

/-- A blog as it is declared. -/
structure Ghost where
  metadata : Metadata
  spec : GhostSpec
  status : Option GhostStatus := none
  deriving BEq, Repr, Inhabited

namespace Ghost

/-- The group of the interface under which blogs are known. -/
def group : String := "marketing.kb.dev"

/-- The version of the interface under which blogs are known. -/
def version : String := "v1"

/-- The interface under which blogs are known. -/
def apiVersion : String := group ++ "/" ++ version

/-- The kind under which blogs are known. -/
def kind : String := "Ghost"

/-- The name of the collection of blogs. -/
def plural : String := "ghosts"

/-- The team of a blog: its namespace, empty if it has none. -/
def team (ghost : Ghost) : String :=
  ghost.metadata.namespaceOrEmpty

/-- The status of a blog, without conditions if there is none yet. -/
def statusOrEmpty (ghost : Ghost) : GhostStatus :=
  ghost.status.getD {}

end Ghost

end BlogOperator
