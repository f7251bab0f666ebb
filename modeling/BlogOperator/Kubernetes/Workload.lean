import BlogOperator.Kubernetes.Schema.Pod
import BlogOperator.Kubernetes.Schema.Status
import BlogOperator.Kubernetes.Schema.Volume

/-!
# Deployments

A `Deployment` runs a number of equal pods. The members that this library builds or looks at are
members of the structures here; the rest of each object is kept in `others`, so that writing an
object that was read gives it back in its normal form.
-/

set_option autoImplicit false

namespace BlogOperator.Kubernetes

open BlogOperator.Json

/-- An environment variable of a container. -/
structure EnvironmentVariable where
  name : String := ""
  value : Option String := none
  others : Members := []
  deriving BEq, Repr, Inhabited

/-- A port on which a container listens. -/
structure ContainerPort where
  containerPort : Int32 := 0
  others : Members := []
  deriving BEq, Repr, Inhabited

/-- A place in a container's files where a volume of the pod appears. -/
structure VolumeMount where
  name : String := ""
  mountPath : String := ""
  others : Members := []
  deriving BEq, Repr, Inhabited

/-- A program that runs in a pod. -/
structure Container where
  name : String := ""
  image : Option String := none
  environment : Option (List EnvironmentVariable) := none
  ports : Option (List ContainerPort) := none
  volumeMounts : Option (List VolumeMount) := none
  others : Members := []
  deriving BEq, Repr, Inhabited

/-- The use of a claim as a volume. -/
structure ClaimSource where
  claimName : String := ""
  readOnly : Option Bool := none
  deriving DecidableEq, Repr, Inhabited

/-- A volume of a pod. -/
structure Volume where
  name : String := ""
  claim : Option ClaimSource := none
  others : Members := []
  deriving BEq, Repr, Inhabited

/-- What a pod consists of. -/
structure PodSpec where
  containers : List Container := []
  volumes : Option (List Volume) := none
  others : Members := []
  deriving BEq, Repr, Inhabited

/-- The pattern after which pods are made. -/
structure PodTemplate where
  metadata : Option Metadata := none
  spec : Option PodSpec := none
  deriving BEq, Repr, Inhabited

/-- A choice of objects by their labels. -/
structure LabelSelector where
  matchLabels : Option (List (String × String)) := none
  others : Members := []
  deriving BEq, Repr, Inhabited

/-- What a deployment runs. -/
structure DeploymentSpec where
  replicas : Option Int32 := none
  selector : LabelSelector := {}
  template : PodTemplate := {}
  others : Members := []
  deriving BEq, Repr, Inhabited

/-- A number of equal pods. -/
structure Deployment where
  metadata : Metadata := {}
  spec : Option DeploymentSpec := none
  others : Members := []
  deriving BEq, Repr, Inhabited

/-! ### Inside a container -/

/-- An environment variable as it is read. -/
def EnvironmentVariable.form : Form EnvironmentVariable :=
  .schema "EnvVar" ([
    .filled "name" .string "" fun value entry ↦ { entry with name := value },
    .optional "value" .string fun value entry ↦ { entry with value := value }] ++
    [Schema.variableSource].map (Property.slot fun change entry ↦
      { entry with others := change entry.others }))
    {}

/-- An environment entry as it is written. -/
def EnvironmentVariable.write (entry : EnvironmentVariable) : Json :=
  Json.record ([("name", .text entry.name)] ++ Json.optional "value" .text entry.value ++
    entry.others)

/-- The properties of a container's port besides its number. -/
def ContainerPort.otherProperties : List Property := [
  .text "hostIP", .count "hostPort", .text "name", .text "protocol"]

/-- A container's port as it is read. -/
def ContainerPort.form : Form ContainerPort :=
  .schema "ContainerPort" ([
    .filled "containerPort" .int32 0 fun value port ↦ { port with containerPort := value }] ++
    otherProperties.map (Property.slot fun change port ↦
      { port with others := change port.others }))
    {}

/-- A container's port as it is written. -/
def ContainerPort.write (port : ContainerPort) : Json :=
  Json.record ([("containerPort", Json.integer port.containerPort.toInt)] ++ port.others)

/-- The properties of a mount besides its volume and place. -/
def VolumeMount.otherProperties : List Property := [
  .text "mountPropagation", .flag "readOnly", .text "recursiveReadOnly", .text "subPath",
  .text "subPathExpr"]

/-- A mount as it is read. -/
def VolumeMount.form : Form VolumeMount :=
  .schema "VolumeMount" ([
    .filled "name" .string "" fun value mount ↦ { mount with name := value },
    .filled "mountPath" .string "" fun value mount ↦ { mount with mountPath := value }] ++
    otherProperties.map (Property.slot fun change mount ↦
      { mount with others := change mount.others }))
    {}

/-- A mount as it is written. -/
def VolumeMount.write (mount : VolumeMount) : Json :=
  Json.record ([("name", .text mount.name), ("mountPath", .text mount.mountPath)] ++ mount.others)

/-- The slots of a container, `extra` properties among them. -/
def Container.slots (extra : List Property) : List (Slot Container) :=
  [.filled "name" .string "" fun value container ↦ { container with name := value },
    .optional "image" .string fun value container ↦ { container with image := value },
    .optional "env" (.list EnvironmentVariable.form) fun value container ↦
      { container with environment := value },
    .optional "ports" (.list ContainerPort.form) fun value container ↦
      { container with ports := value },
    .optional "volumeMounts" (.list VolumeMount.form) fun value container ↦
      { container with volumeMounts := value }] ++
  (Schema.container ++ extra).map (Property.slot fun change container ↦
    { container with others := change container.others })

/-- A container as it is read. -/
def Container.form : Form Container :=
  .schema "Container" (slots []) {}

/-- A container that is added to a running pod, as it is read. -/
def Container.ephemeralForm : Form Container :=
  .schema "EphemeralContainer" (slots [.text "targetContainerName"]) {}

/-- A container as it is written. -/
def Container.write (container : Container) : Json :=
  Json.record ([("name", .text container.name)] ++
    Json.optional "image" .text container.image ++
    Json.optional "env" (fun entries ↦ .list (entries.map EnvironmentVariable.write))
      container.environment ++
    Json.optional "ports" (fun ports ↦ .list (ports.map ContainerPort.write)) container.ports ++
    Json.optional "volumeMounts" (fun mounts ↦ .list (mounts.map VolumeMount.write))
      container.volumeMounts ++
    container.others)

/-! ### Inside a pod -/

/-- The use of a claim as it is read. -/
def ClaimSource.form : Form ClaimSource :=
  .schema "PersistentVolumeClaimVolumeSource" [
    .filled "claimName" .string "" fun value claim ↦ { claim with claimName := value },
    .optional "readOnly" .bool fun value claim ↦ { claim with readOnly := value }]
    {}

/-- The use of a claim as it is written. -/
def ClaimSource.write (source : ClaimSource) : Json :=
  Json.record ([("claimName", .text source.claimName)] ++
    Json.optional "readOnly" .bool source.readOnly)

/-- A volume as it is read. -/
def Volume.form : Form Volume :=
  .schema "Volume" ([
    .filled "name" .string "" fun value volume ↦ { volume with name := value },
    .optional "persistentVolumeClaim" ClaimSource.form fun value volume ↦
      { volume with claim := value }] ++
    Schema.volume.map (Property.slot fun change volume ↦
      { volume with others := change volume.others }))
    {}

/-- A volume as it is written. -/
def Volume.write (volume : Volume) : Json :=
  Json.record ([("name", .text volume.name)] ++
    Json.optional "persistentVolumeClaim" ClaimSource.write volume.claim ++ volume.others)

/-- The properties of a pod besides its containers and volumes, further containers included. -/
def PodSpec.otherProperties : List Property :=
  Schema.pod ++ [
    .many "initContainers" (Container.form.map Container.write),
    .many "ephemeralContainers" (Container.ephemeralForm.map Container.write)]

/-- What a pod consists of as it is read. -/
def PodSpec.form : Form PodSpec :=
  .schema "PodSpec" ([
    .filled "containers" (.list Container.form) [] fun value spec ↦
      { spec with containers := value },
    .optional "volumes" (.list Volume.form) fun value spec ↦ { spec with volumes := value }] ++
    otherProperties.map (Property.slot fun change spec ↦
      { spec with others := change spec.others }))
    {}

/-- What a pod consists of as it is written. -/
def PodSpec.write (spec : PodSpec) : Json :=
  Json.record ([("containers", .list (spec.containers.map Container.write))] ++
    Json.optional "volumes" (fun volumes ↦ .list (volumes.map Volume.write)) spec.volumes ++
    spec.others)

/-- A pattern of pods as it is read. -/
def PodTemplate.form : Form PodTemplate :=
  .schema "PodTemplateSpec" [
    .optional "metadata" Metadata.form fun value template ↦ { template with metadata := value },
    .optional "spec" PodSpec.form fun value template ↦ { template with spec := value }]
    {}

/-- A pattern of pods as it is written. -/
def PodTemplate.write (template : PodTemplate) : Json :=
  Json.record (Json.optional "metadata" Metadata.write template.metadata ++
    Json.optional "spec" PodSpec.write template.spec)

/-! ### Deployments -/

/-- A choice by labels as it is read. -/
def LabelSelector.form : Form LabelSelector :=
  .schema "LabelSelector" ([
    .optional "matchLabels" (.dictionary .string) fun value selector ↦
      { selector with matchLabels := value }] ++
    [Schema.matchExpressions].map (Property.slot fun change selector ↦
      { selector with others := change selector.others }))
    {}

/-- A choice by labels as it is written. -/
def LabelSelector.write (selector : LabelSelector) : Json :=
  Json.record (Json.optional "matchLabels" Json.dictionary selector.matchLabels ++
    selector.others)

/-- The properties of what a deployment runs besides number, selector and pattern. -/
def DeploymentSpec.otherProperties : List Property := [
  .count "minReadySeconds", .flag "paused", .count "progressDeadlineSeconds",
  .count "revisionHistoryLimit",
  .shape "strategy" "DeploymentStrategy" [
    .shape "rollingUpdate" "RollingUpdateDeployment" [
      portProperty "maxSurge", portProperty "maxUnavailable"],
    .text "type"]]

/-- What a deployment runs as it is read. -/
def DeploymentSpec.form : Form DeploymentSpec :=
  .schema "DeploymentSpec" ([
    .optional "replicas" .int32 fun value spec ↦ { spec with replicas := value },
    .filled "selector" LabelSelector.form {} fun value spec ↦ { spec with selector := value },
    .filled "template" PodTemplate.form {} fun value spec ↦ { spec with template := value }] ++
    otherProperties.map (Property.slot fun change spec ↦
      { spec with others := change spec.others }))
    {}

/-- What a deployment runs as it is written. -/
def DeploymentSpec.write (spec : DeploymentSpec) : Json :=
  Json.record (Json.optional "replicas" (fun count ↦ Json.integer count.toInt) spec.replicas ++
    [("selector", spec.selector.write), ("template", spec.template.write)] ++ spec.others)

namespace Deployment

/-- The interface under which deployments are known. -/
def apiVersion : String := "apps/v1"

/-- The kind under which deployments are known. -/
def kind : String := "Deployment"

/-- A deployment as it is read. -/
def form : Form Deployment :=
  .schema kind ([
    .constant "apiVersion" apiVersion, .constant "kind" kind,
    .filled "metadata" Metadata.form {} fun value deployment ↦
      { deployment with metadata := value },
    .optional "spec" DeploymentSpec.form fun value deployment ↦
      { deployment with spec := value }] ++
    [Schema.deploymentStatus].map (Property.slot fun change deployment ↦
      { deployment with others := change deployment.others }))
    {}

/-- A deployment as it is written. -/
def write (deployment : Deployment) : Json :=
  Json.record ([("apiVersion", .text apiVersion), ("kind", .text kind),
    ("metadata", deployment.metadata.write)] ++
    Json.optional "spec" DeploymentSpec.write deployment.spec ++ deployment.others)

end Deployment

end BlogOperator.Kubernetes
