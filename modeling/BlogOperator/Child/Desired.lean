import BlogOperator.Child.Kind
import BlogOperator.Ghost.Basic

/-!
# Desired children

What the children of a blog look like when nobody has touched them. Each is a function of the blog
alone: the team gives names and labels, the specification gives the image and the number of pods,
and the blog's own name gives the host under which it is reached.
-/

set_option autoImplicit false

namespace BlogOperator

open BlogOperator.Kubernetes

/-- The port on which the blog's program listens. -/
def containerPort : Int32 := 2368

/-- The port of the service, to which requests from outside are routed. -/
def servicePort : Int32 := 80

/-- How much storage the content of a blog gets. -/
def storageSize : String := "1Gi"

/-- The domain under which blogs are reached. -/
def ingressDomain : String := "kb.dev"

/-- Who serves the routes from outside. -/
def ingressClass : String := "nginx"

/-- The name of the volume that holds a blog's content. -/
def dataVolume : String := "ghost-data"

/-- Where the program keeps a blog's content. -/
def contentPath : String := "/var/lib/ghost/content"

/-- Where the program keeps its database, inside the content. -/
def databaseFile : String := "/var/lib/ghost/content/data/ghost.db"

/-- The image with a tag. -/
def imageName (tag : String) : String :=
  "ghost:" ++ tag

/-- The host of a blog. -/
def hostName (name : String) : String :=
  name ++ "." ++ ingressDomain

/-- The labels of a team's pods, by which they are found again. -/
def podLabels (team : String) : List (String × String) :=
  [("app", "ghost-" ++ team)]

/-- The metadata of a new child. -/
def childMetadata (kind : ChildKind) (team : String) : Metadata :=
  { name := some (kind.childName team), namespaceName := some team }

namespace Ghost

/-- The claim on storage for the blog's content. -/
def volumeClaim (ghost : Ghost) : VolumeClaim where
  metadata := childMetadata .volumeClaim ghost.team
  spec := some {
    accessModes := some ["ReadWriteOnce"]
    resources := some { requests := some [("storage", storageSize)] } }

/-- The container that runs the blog. -/
def container (ghost : Ghost) : Container where
  name := "ghost"
  image := some (imageName ghost.spec.imageTag)
  environment := some [
    { name := "NODE_ENV", value := some "development" },
    { name := "database__connection__filename", value := some databaseFile }]
  ports := some [{ containerPort := containerPort }]
  volumeMounts := some [{ name := dataVolume, mountPath := contentPath }]

/-- What the deployment of the blog runs. -/
def deploymentSpec (ghost : Ghost) : DeploymentSpec where
  replicas := some ghost.spec.replicas
  selector := { matchLabels := some (podLabels ghost.team) }
  template := {
    metadata := some { labels := some (podLabels ghost.team) }
    spec := some {
      containers := [ghost.container]
      volumes := some [{
        name := dataVolume
        claim := some { claimName := ChildKind.volumeClaim.childName ghost.team } }] } }

/-- The deployment of the blog. -/
def deployment (ghost : Ghost) : Deployment where
  metadata := childMetadata .deployment ghost.team
  spec := some ghost.deploymentSpec

/-- The service in front of the blog's pods. -/
def service (ghost : Ghost) : Service where
  metadata := childMetadata .service ghost.team
  spec := some {
    serviceType := some "NodePort"
    ports := some [{ port := servicePort, targetPort := some (.number containerPort) }]
    selector := some (podLabels ghost.team) }

/-- The route from the blog's host to its service. -/
def ingress (ghost : Ghost) : Ingress where
  metadata := childMetadata .ingress ghost.team
  spec := some {
    className := some ingressClass
    rules := some [{
      host := some (hostName ghost.metadata.displayName)
      paths := some [{
        path := some "/"
        pathType := "Prefix"
        backend := { service := some {
          name := ChildKind.service.childName ghost.team
          port := some { number := some servicePort } } } }] }] }

/-- The child of a kind. -/
def child (ghost : Ghost) : (kind : ChildKind) → kind.Object
  | .volumeClaim => ghost.volumeClaim
  | .deployment => ghost.deployment
  | .service => ghost.service
  | .ingress => ghost.ingress

@[simp] theorem metadata_child (ghost : Ghost) (kind : ChildKind) :
    kind.metadata (ghost.child kind) = childMetadata kind ghost.team := by
  cases kind <;> rfl

end Ghost

end BlogOperator
