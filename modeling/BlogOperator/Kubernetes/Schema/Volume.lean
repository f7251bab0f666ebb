import BlogOperator.Kubernetes.Metadata
import BlogOperator.Kubernetes.Schema.Selection

/-!
# Schemas of volumes

The kinds of volumes that this library only hands on, and the properties of a claim on storage
besides its access modes and resources.
-/

set_option autoImplicit false

namespace BlogOperator.Kubernetes.Schema

open BlogOperator.Json

/-- Entries to be shown as files. -/
def keyItems : Property :=
  .shapes "items" "KeyToPath" [.requiredText "key", .count "mode", .requiredText "path"]

/-- Members of the pod to be shown as files. -/
def downwardItems : Property :=
  .shapes "items" "DownwardAPIVolumeFile" [
    fieldSelector, .count "mode", .requiredText "path", resourceFieldSelector]

/-- The sources of a volume that shows several of them. -/
def projection : List Property := [
  .shape "clusterTrustBundle" "ClusterTrustBundleProjection" [
    labelSelector "labelSelector", .text "name", .flag "optional", .requiredText "path",
    .text "signerName"],
  .shape "configMap" "ConfigMapProjection" [keyItems, .requiredText "name", .flag "optional"],
  .shape "downwardAPI" "DownwardAPIProjection" [downwardItems],
  .shape "secret" "SecretProjection" [keyItems, .requiredText "name", .flag "optional"],
  .shape "serviceAccountToken" "ServiceAccountTokenProjection" [
    .text "audience", .longCount "expirationSeconds", .requiredText "path"]]

/-- The properties of a claim besides its access modes and resources. -/
def claim : List Property := [
  .shape "dataSource" "TypedLocalObjectReference" typedLocalReference,
  .shape "dataSourceRef" "TypedObjectReference" (typedLocalReference ++ [.text "namespace"]),
  labelSelector "selector", .text "storageClassName", .text "volumeAttributesClassName",
  .text "volumeMode", .text "volumeName"]

/-- A claim that comes and goes with its pod. -/
def claimTemplate : Property :=
  .shape "volumeClaimTemplate" "PersistentVolumeClaimTemplate" [
    .one "metadata" (Metadata.form.map Metadata.write),
    .requiredShape "spec" "PersistentVolumeClaimSpec" (claim ++ [
      .texts "accessModes", .shape "resources" "VolumeResourceRequirements" volumeResources])]

/-- The kinds of volumes besides a claim. -/
def volume : List Property := [
  .shape "awsElasticBlockStore" "AWSElasticBlockStoreVolumeSource" [
    .text "fsType", .count "partition", .flag "readOnly", .requiredText "volumeID"],
  .shape "azureDisk" "AzureDiskVolumeSource" [
    .text "cachingMode", .requiredText "diskName", .requiredText "diskURI", .text "fsType",
    .text "kind", .flag "readOnly"],
  .shape "azureFile" "AzureFileVolumeSource" [
    .flag "readOnly", .requiredText "secretName", .requiredText "shareName"],
  .shape "cephfs" "CephFSVolumeSource" [
    .requiredTexts "monitors", .text "path", .flag "readOnly", .text "secretFile",
    localReference "secretRef", .text "user"],
  .shape "cinder" "CinderVolumeSource" [
    .text "fsType", .flag "readOnly", localReference "secretRef", .requiredText "volumeID"],
  .shape "configMap" "ConfigMapVolumeSource" [
    .count "defaultMode", keyItems, .requiredText "name", .flag "optional"],
  .shape "csi" "CSIVolumeSource" [
    .requiredText "driver", .text "fsType", localReference "nodePublishSecretRef",
    .flag "readOnly", .labels "volumeAttributes"],
  .shape "downwardAPI" "DownwardAPIVolumeSource" [.count "defaultMode", downwardItems],
  .shape "emptyDir" "EmptyDirVolumeSource" [.text "medium", .text "sizeLimit"],
  .shape "ephemeral" "EphemeralVolumeSource" [claimTemplate],
  .shape "fc" "FCVolumeSource" [
    .text "fsType", .count "lun", .flag "readOnly", .texts "targetWWNs", .texts "wwids"],
  .shape "flexVolume" "FlexVolumeSource" [
    .requiredText "driver", .text "fsType", .labels "options", .flag "readOnly",
    localReference "secretRef"],
  .shape "flocker" "FlockerVolumeSource" [.text "datasetName", .text "datasetUUID"],
  .shape "gcePersistentDisk" "GCEPersistentDiskVolumeSource" [
    .text "fsType", .count "partition", .requiredText "pdName", .flag "readOnly"],
  .shape "gitRepo" "GitRepoVolumeSource" [
    .text "directory", .requiredText "repository", .text "revision"],
  .shape "glusterfs" "GlusterfsVolumeSource" [
    .requiredText "endpoints", .requiredText "path", .flag "readOnly"],
  .shape "hostPath" "HostPathVolumeSource" [.requiredText "path", .text "type"],
  .shape "image" "ImageVolumeSource" [.text "pullPolicy", .text "reference"],
  .shape "iscsi" "ISCSIVolumeSource" [
    .flag "chapAuthDiscovery", .flag "chapAuthSession", .text "fsType", .text "initiatorName",
    .requiredText "iqn", .text "iscsiInterface", .requiredCount "lun", .texts "portals",
    .flag "readOnly", localReference "secretRef", .requiredText "targetPortal"],
  .shape "nfs" "NFSVolumeSource" [
    .requiredText "path", .flag "readOnly", .requiredText "server"],
  .shape "photonPersistentDisk" "PhotonPersistentDiskVolumeSource" [
    .text "fsType", .requiredText "pdID"],
  .shape "portworxVolume" "PortworxVolumeSource" [
    .text "fsType", .flag "readOnly", .requiredText "volumeID"],
  .shape "projected" "ProjectedVolumeSource" [
    .count "defaultMode", .shapes "sources" "VolumeProjection" projection],
  .shape "quobyte" "QuobyteVolumeSource" [
    .text "group", .flag "readOnly", .requiredText "registry", .text "tenant", .text "user",
    .requiredText "volume"],
  .shape "rbd" "RBDVolumeSource" [
    .text "fsType", .requiredText "image", .text "keyring", .requiredTexts "monitors",
    .text "pool", .flag "readOnly", localReference "secretRef", .text "user"],
  .shape "scaleIO" "ScaleIOVolumeSource" [
    .text "fsType", .requiredText "gateway", .text "protectionDomain", .flag "readOnly",
    .requiredShape "secretRef" "LocalObjectReference" [.requiredText "name"],
    .flag "sslEnabled", .text "storageMode", .text "storagePool", .requiredText "system",
    .text "volumeName"],
  .shape "secret" "SecretVolumeSource" [
    .count "defaultMode", keyItems, .flag "optional", .text "secretName"],
  .shape "storageos" "StorageOSVolumeSource" [
    .text "fsType", .flag "readOnly", localReference "secretRef", .text "volumeName",
    .text "volumeNamespace"],
  .shape "vsphereVolume" "VsphereVirtualDiskVolumeSource" [
    .text "fsType", .text "storagePolicyID", .text "storagePolicyName",
    .requiredText "volumePath"]]

end BlogOperator.Kubernetes.Schema
