import BlogOperator.Kubernetes.Schema.Container

/-!
# Schemas inside a pod

Where a pod may run and under what conditions: affinities, tolerations, spreading, names and
security settings. This library only hands them on.
-/

set_option autoImplicit false

namespace BlogOperator.Kubernetes.Schema

open BlogOperator.Json

/-- A choice of nodes by their labels and members. -/
def nodeSelectorTerm : List Property := [
  .shapes "matchExpressions" "NodeSelectorRequirement" labelRequirement,
  .shapes "matchFields" "NodeSelectorRequirement" labelRequirement]

/-- Nodes that a pod prefers or needs. -/
def nodeAffinity : Property :=
  .shape "nodeAffinity" "NodeAffinity" [
    .shapes "preferredDuringSchedulingIgnoredDuringExecution" "PreferredSchedulingTerm" [
      .requiredShape "preference" "NodeSelectorTerm" nodeSelectorTerm, .requiredCount "weight"],
    .shape "requiredDuringSchedulingIgnoredDuringExecution" "NodeSelector" [
      .requiredMany "nodeSelectorTerms" (.shape "NodeSelectorTerm" nodeSelectorTerm)]]

/-- Pods that a pod is to stand near, or apart from. -/
def podAffinityTerm : List Property := [
  labelSelector "labelSelector", .texts "matchLabelKeys", .texts "mismatchLabelKeys",
  labelSelector "namespaceSelector", .texts "namespaces", .requiredText "topologyKey"]

/-- Nearness to other pods, or distance from them. -/
def podAffinity (name expected : String) : Property :=
  .shape name expected [
    .shapes "preferredDuringSchedulingIgnoredDuringExecution" "WeightedPodAffinityTerm" [
      .requiredShape "podAffinityTerm" "PodAffinityTerm" podAffinityTerm,
      .requiredCount "weight"],
    .shapes "requiredDuringSchedulingIgnoredDuringExecution" "PodAffinityTerm" podAffinityTerm]

/-- Under what rights the containers of a pod run. -/
def podSecurityContext : Property :=
  .shape "securityContext" "PodSecurityContext" [
    profile "appArmorProfile" "AppArmorProfile", .longCount "fsGroup",
    .text "fsGroupChangePolicy", .longCount "runAsGroup", .flag "runAsNonRoot",
    .longCount "runAsUser", .text "seLinuxChangePolicy", seLinuxOptions,
    profile "seccompProfile" "SeccompProfile",
    .many "supplementalGroups" (Form.int64.map Json.integer), .text "supplementalGroupsPolicy",
    .shapes "sysctls" "Sysctl" [.requiredText "name", .requiredText "value"], windowsOptions]

/-- The properties of a pod besides its containers and volumes. -/
def pod : List Property := [
  .longCount "activeDeadlineSeconds",
  .shape "affinity" "Affinity" [
    nodeAffinity, podAffinity "podAffinity" "PodAffinity",
    podAffinity "podAntiAffinity" "PodAntiAffinity"],
  .flag "automountServiceAccountToken",
  .shape "dnsConfig" "PodDNSConfig" [
    .texts "nameservers", .shapes "options" "PodDNSConfigOption" [.text "name", .text "value"],
    .texts "searches"],
  .text "dnsPolicy", .flag "enableServiceLinks",
  .shapes "hostAliases" "HostAlias" [.texts "hostnames", .requiredText "ip"], .flag "hostIPC",
  .flag "hostNetwork", .flag "hostPID", .flag "hostUsers", .text "hostname",
  .shapes "imagePullSecrets" "LocalObjectReference" [.requiredText "name"], .text "nodeName",
  .labels "nodeSelector", .shape "os" "PodOS" [.requiredText "name"], .labels "overhead",
  .text "preemptionPolicy", .count "priority", .text "priorityClassName",
  .shapes "readinessGates" "PodReadinessGate" [.requiredText "conditionType"],
  .shapes "resourceClaims" "PodResourceClaim" [
    .requiredText "name", .text "resourceClaimName", .text "resourceClaimTemplateName"],
  resources, .text "restartPolicy", .text "runtimeClassName", .text "schedulerName",
  .shapes "schedulingGates" "PodSchedulingGate" [.requiredText "name"], podSecurityContext,
  .text "serviceAccount", .text "serviceAccountName", .flag "setHostnameAsFQDN",
  .flag "shareProcessNamespace", .text "subdomain", .longCount "terminationGracePeriodSeconds",
  .shapes "tolerations" "Toleration" [
    .text "effect", .text "key", .text "operator", .longCount "tolerationSeconds",
    .text "value"],
  .shapes "topologySpreadConstraints" "TopologySpreadConstraint" [
    labelSelector "labelSelector", .texts "matchLabelKeys", .requiredCount "maxSkew",
    .count "minDomains", .text "nodeAffinityPolicy", .text "nodeTaintsPolicy",
    .requiredText "topologyKey", .requiredText "whenUnsatisfiable"]]

end BlogOperator.Kubernetes.Schema
