import BlogOperator.Kubernetes.Schema.Selection

/-!
# Schemas inside a container

The parts of a container that this library only hands on: probes, hooks, resources, security
settings and the sources of environment variables.
-/

set_option autoImplicit false

namespace BlogOperator.Kubernetes.Schema

open BlogOperator.Json

/-- A command to run. -/
def execAction : Property := .shape "exec" "ExecAction" [.texts "command"]

/-- A request to send. -/
def httpGetAction : Property :=
  .shape "httpGet" "HTTPGetAction" [
    .text "host",
    .shapes "httpHeaders" "HTTPHeader" [.requiredText "name", .requiredText "value"],
    .text "path", requiredPort "port", .text "scheme"]

/-- A connection to open. -/
def tcpSocketAction : Property :=
  .shape "tcpSocket" "TCPSocketAction" [.text "host", requiredPort "port"]

/-- What is done at a point of a container's life. -/
def lifecycleHandler (name : String) : Property :=
  .shape name "LifecycleHandler" [
    execAction, httpGetAction,
    .shape "sleep" "SleepAction" [(Property.longCount "seconds").required (Json.integer 0)],
    tcpSocketAction]

/-- A check that a container is well. -/
def probe (name : String) : Property :=
  .shape name "Probe" [
    execAction, .count "failureThreshold",
    .shape "grpc" "GRPCAction" [.requiredCount "port", .text "service"],
    httpGetAction, .count "initialDelaySeconds", .count "periodSeconds",
    .count "successThreshold", tcpSocketAction, .longCount "terminationGracePeriodSeconds",
    .count "timeoutSeconds"]

/-- What a container may use. -/
def resources : Property :=
  .shape "resources" "ResourceRequirements" [
    .shapes "claims" "ResourceClaim" [.requiredText "name", .text "request"],
    .labels "limits", .labels "requests"]

/-- A confinement profile. -/
def profile (name expected : String) : Property :=
  .shape name expected [.text "localhostProfile", .requiredText "type"]

/-- Labels of mandatory access control. -/
def seLinuxOptions : Property :=
  .shape "seLinuxOptions" "SELinuxOptions" [
    .text "level", .text "role", .text "type", .text "user"]

/-- Settings for one operating system. -/
def windowsOptions : Property :=
  .shape "windowsOptions" "WindowsSecurityContextOptions" [
    .text "gmsaCredentialSpec", .text "gmsaCredentialSpecName", .flag "hostProcess",
    .text "runAsUserName"]

/-- Under what rights a container runs. -/
def securityContext : Property :=
  .shape "securityContext" "SecurityContext" [
    .flag "allowPrivilegeEscalation", profile "appArmorProfile" "AppArmorProfile",
    .shape "capabilities" "Capabilities" [.texts "add", .texts "drop"],
    .flag "privileged", .text "procMount", .flag "readOnlyRootFilesystem",
    .longCount "runAsGroup", .flag "runAsNonRoot", .longCount "runAsUser", seLinuxOptions,
    profile "seccompProfile" "SeccompProfile", windowsOptions]

/-- Where the value of an environment variable comes from. -/
def variableSource : Property :=
  .shape "valueFrom" "EnvVarSource" [
    keySelector "configMapKeyRef" "ConfigMapKeySelector", fieldSelector, resourceFieldSelector,
    keySelector "secretKeyRef" "SecretKeySelector"]

/-- Where a set of environment variables comes from. -/
def variablesSource : List Property := [
  .shape "configMapRef" "ConfigMapEnvSource" [.requiredText "name", .flag "optional"],
  .text "prefix",
  .shape "secretRef" "SecretEnvSource" [.requiredText "name", .flag "optional"]]

/-- The properties of a container besides its name, image, environment, ports and mounts. -/
def container : List Property := [
  .texts "args", .texts "command", .shapes "envFrom" "EnvFromSource" variablesSource,
  .text "imagePullPolicy",
  .shape "lifecycle" "Lifecycle" [
    lifecycleHandler "postStart", lifecycleHandler "preStop", .text "stopSignal"],
  probe "livenessProbe", probe "readinessProbe",
  .shapes "resizePolicy" "ContainerResizePolicy" [
    .requiredText "resourceName", .requiredText "restartPolicy"],
  resources, .text "restartPolicy", securityContext, probe "startupProbe", .flag "stdin",
  .flag "stdinOnce", .text "terminationMessagePath", .text "terminationMessagePolicy",
  .flag "tty",
  .shapes "volumeDevices" "VolumeDevice" [.requiredText "devicePath", .requiredText "name"],
  .text "workingDir"]

end BlogOperator.Kubernetes.Schema
