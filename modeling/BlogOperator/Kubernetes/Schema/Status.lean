import BlogOperator.Kubernetes.Scalar

/-!
# Schemas of what the cluster reports

The statuses of the four kinds of children. They are written by the cluster and only handed on by
this library.
-/

set_option autoImplicit false

namespace BlogOperator.Kubernetes.Schema

open BlogOperator.Json

/-- The state of a deployment. -/
def deploymentStatus : Property :=
  .shape "status" "DeploymentStatus" [
    .count "availableReplicas", .count "collisionCount",
    .shapes "conditions" "DeploymentCondition" [
      timeProperty "lastTransitionTime", timeProperty "lastUpdateTime", .text "message",
      .text "reason", .requiredText "status", .requiredText "type"],
    .longCount "observedGeneration", .count "readyReplicas", .count "replicas",
    .count "terminatingReplicas", .count "unavailableReplicas", .count "updatedReplicas"]

/-- The state of a claim on storage. -/
def claimStatus : Property :=
  .shape "status" "PersistentVolumeClaimStatus" [
    .texts "accessModes", .labels "allocatedResourceStatuses", .labels "allocatedResources",
    .labels "capacity",
    .shapes "conditions" "PersistentVolumeClaimCondition" [
      timeProperty "lastProbeTime", timeProperty "lastTransitionTime", .text "message",
      .text "reason", .requiredText "status", .requiredText "type"],
    .text "currentVolumeAttributesClassName",
    .shape "modifyVolumeStatus" "ModifyVolumeStatus" [
      .requiredText "status", .text "targetVolumeAttributesClassName"],
    .text "phase"]

/-- A condition whose time must be there. -/
def generalCondition : Form Json :=
  .firmShape "Condition" (timeProperty "lastTransitionTime") [
    .requiredText "message", .longCount "observedGeneration", .requiredText "reason",
    .requiredText "status", .requiredText "type"]

/-- The addresses at which a load balancer answers. -/
def loadBalancer (expected entry port : String) (mode : List Property) : Property :=
  .shape "loadBalancer" expected [
    .shapes "ingress" entry ([
      .text "hostname", .text "ip",
      .shapes "ports" port [.text "error", .requiredCount "port", .requiredText "protocol"]] ++
      mode)]

/-- The state of a service. -/
def serviceStatus : Property :=
  .shape "status" "ServiceStatus" [
    .many "conditions" generalCondition,
    loadBalancer "LoadBalancerStatus" "LoadBalancerIngress" "PortStatus" [.text "ipMode"]]

/-- The state of an ingress. -/
def ingressStatus : Property :=
  .shape "status" "IngressStatus" [
    loadBalancer "IngressLoadBalancerStatus" "IngressLoadBalancerIngress" "IngressPortStatus" []]

end BlogOperator.Kubernetes.Schema
