import RouterOperator.Schema.Metadata

/-!
# Shape of volumes
-/

namespace RouterOperator.Schema

open Shape

/-- A projection of keys to paths. -/
def keyToPaths : Shape := listOf <| .record [("mode", int32)] [("key", text), ("path", text)]

/-- A field of the pod itself. -/
def fieldReference : Shape := .record [("apiVersion", text)] [("fieldPath", text)]

/-- A resource of a container. -/
def resourceReference : Shape :=
  .record [("containerName", text), ("divisor", text)] [("resource", text)]

/-- Files made from fields of the pod. -/
def downwardFiles : Shape :=
  listOf <| .record
    [("fieldRef", fieldReference), ("mode", int32), ("resourceFieldRef", resourceReference)]
    [("path", text)]

/-- A claim for a persistent volume. -/
def volumeClaimSpec : Shape :=
  fields [
    ("accessModes", texts),
    ("dataSource", .record [("apiGroup", text)] [("kind", text), ("name", text)]),
    ("dataSourceRef",
      .record [("apiGroup", text), ("namespace", text)] [("kind", text), ("name", text)]),
    ("resources", fields [("limits", quantities), ("requests", quantities)]),
    ("selector", labelSelector), ("storageClassName", text), ("volumeAttributesClassName", text),
    ("volumeMode", text), ("volumeName", text)]

/-- A config map as a volume. -/
def configMapVolume : Shape :=
  .record [("defaultMode", int32), ("items", keyToPaths), ("optional", flag)] [("name", text)]

/-- A secret as a volume. -/
def secretVolume : Shape :=
  fields [
    ("defaultMode", int32), ("items", keyToPaths), ("optional", flag), ("secretName", text)]

/-- Several sources in one volume. -/
def projectedVolume : Shape :=
  fields [
    ("defaultMode", int32),
    ("sources", listOf <| fields [
      ("clusterTrustBundle", .record
        [("labelSelector", labelSelector), ("name", text), ("optional", flag), ("signerName", text)]
        [("path", text)]),
      ("configMap", .record [("items", keyToPaths), ("optional", flag)] [("name", text)]),
      ("downwardAPI", fields [("items", downwardFiles)]),
      ("secret", .record [("items", keyToPaths), ("optional", flag)] [("name", text)]),
      ("serviceAccountToken",
        .record [("audience", text), ("expirationSeconds", int64)] [("path", text)])])]

/-- A volume of a pod. -/
def volume : Shape :=
  .record [
    ("awsElasticBlockStore",
      .record [("fsType", text), ("partition", int32), ("readOnly", flag)] [("volumeID", text)]),
    ("azureDisk",
      .record [("cachingMode", text), ("fsType", text), ("kind", text), ("readOnly", flag)]
        [("diskName", text), ("diskURI", text)]),
    ("azureFile", .record [("readOnly", flag)] [("secretName", text), ("shareName", text)]),
    ("cephfs",
      .record [("path", text), ("readOnly", flag), ("secretFile", text),
        ("secretRef", localReference), ("user", text)] [("monitors", texts)]),
    ("cinder",
      .record [("fsType", text), ("readOnly", flag), ("secretRef", localReference)]
        [("volumeID", text)]),
    ("configMap", configMapVolume),
    ("csi",
      .record [("fsType", text), ("nodePublishSecretRef", localReference), ("readOnly", flag),
        ("volumeAttributes", textDict)] [("driver", text)]),
    ("downwardAPI", fields [("defaultMode", int32), ("items", downwardFiles)]),
    ("emptyDir", fields [("medium", text), ("sizeLimit", text)]),
    ("ephemeral", fields [("volumeClaimTemplate",
      .record [("metadata", objectMeta)] [("spec", volumeClaimSpec)])]),
    ("fc",
      fields [("fsType", text), ("lun", int32), ("readOnly", flag), ("targetWWNs", texts),
        ("wwids", texts)]),
    ("flexVolume",
      .record [("fsType", text), ("options", textDict), ("readOnly", flag),
        ("secretRef", localReference)] [("driver", text)]),
    ("flocker", fields [("datasetName", text), ("datasetUUID", text)]),
    ("gcePersistentDisk",
      .record [("fsType", text), ("partition", int32), ("readOnly", flag)] [("pdName", text)]),
    ("gitRepo", .record [("directory", text), ("revision", text)] [("repository", text)]),
    ("glusterfs", .record [("readOnly", flag)] [("endpoints", text), ("path", text)]),
    ("hostPath", .record [("type", text)] [("path", text)]),
    ("image", fields [("pullPolicy", text), ("reference", text)]),
    ("iscsi",
      .record [("chapAuthDiscovery", flag), ("chapAuthSession", flag), ("fsType", text),
        ("initiatorName", text), ("iscsiInterface", text), ("portals", texts), ("readOnly", flag),
        ("secretRef", localReference)] [("iqn", text), ("lun", int32), ("targetPortal", text)]),
    ("nfs", .record [("readOnly", flag)] [("path", text), ("server", text)]),
    ("persistentVolumeClaim", .record [("readOnly", flag)] [("claimName", text)]),
    ("photonPersistentDisk", .record [("fsType", text)] [("pdID", text)]),
    ("portworxVolume", .record [("fsType", text), ("readOnly", flag)] [("volumeID", text)]),
    ("projected", projectedVolume),
    ("quobyte",
      .record [("group", text), ("readOnly", flag), ("tenant", text), ("user", text)]
        [("registry", text), ("volume", text)]),
    ("rbd",
      .record [("fsType", text), ("keyring", text), ("pool", text), ("readOnly", flag),
        ("secretRef", localReference), ("user", text)] [("image", text), ("monitors", texts)]),
    ("scaleIO",
      .record [("fsType", text), ("protectionDomain", text), ("readOnly", flag),
        ("sslEnabled", flag), ("storageMode", text), ("storagePool", text), ("volumeName", text)]
        [("gateway", text), ("secretRef", localReference), ("system", text)]),
    ("secret", secretVolume),
    ("storageos",
      fields [("fsType", text), ("readOnly", flag), ("secretRef", localReference),
        ("volumeName", text), ("volumeNamespace", text)]),
    ("vsphereVolume",
      .record [("fsType", text), ("storagePolicyID", text), ("storagePolicyName", text)]
        [("volumePath", text)])]
    [("name", text)]

end RouterOperator.Schema
