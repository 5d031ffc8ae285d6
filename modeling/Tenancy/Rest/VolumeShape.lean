import Tenancy.Rest.ContainerShape

/-!
# Volumes

The shapes of what a pod can mount.
-/

namespace Tenancy.Rest.Shape

/-- A record of texts and of a flag for reading only. -/
def readOnlyTexts (names : List String) (more : List (String × Shape)) : Shape :=
  .record (text.each names ++ ("readOnly", flag) :: more)

/-- Which key becomes which file. -/
def keyPath : Shape := .record (text.each ["key", "path"] ++ [("mode", integer32)])

/-- A file about the pod itself. -/
def podFile : Shape :=
  .record [("fieldRef", fieldReference), ("mode", integer32), ("path", text),
    ("resourceFieldRef", resourceReference)]

/-- The keys of an object as files. -/
def keyFiles : List (String × Shape) := [("items", list keyPath), ("optional", flag)]

/-- One of several sources that share a directory. -/
def projection : Shape :=
  .record [("configMap", .record (("name", text) :: keyFiles)),
    ("downwardAPI", .record [("items", list podFile)]),
    ("secret", .record (("name", text) :: keyFiles)),
    ("serviceAccountToken",
      .record (text.each ["audience", "path"] ++ [("expirationSeconds", integer64)]))]

/-- What is asked of storage. -/
def claimSpec : Shape :=
  .record (text.each ["storageClassName", "volumeMode", "volumeName"] ++
    [("accessModes", list text), ("dataSource", texts ["apiGroup", "kind", "name"]),
      ("dataSourceRef", texts ["apiGroup", "kind", "name", "namespace"]),
      ("resources", resources), ("selector", labelSelector)])

def claimTemplate : Shape := .record [("metadata", metadata), ("spec", claimSpec)]

/-- The sources that live on the machine or in the cluster. -/
def internalSources : List (String × Shape) :=
  [("configMap", .record ([("defaultMode", integer32), ("name", text)] ++ keyFiles)),
    ("downwardAPI", .record [("defaultMode", integer32), ("items", list podFile)]),
    ("emptyDir", texts ["medium", "sizeLimit"]),
    ("ephemeral", .record [("volumeClaimTemplate", claimTemplate)]),
    ("gitRepo", texts ["directory", "repository", "revision"]),
    ("hostPath", texts ["path", "type"]),
    ("persistentVolumeClaim", readOnlyTexts ["claimName"] []),
    ("projected", .record [("defaultMode", integer32), ("sources", list projection)]),
    ("secret", .record ([("defaultMode", integer32), ("secretName", text)] ++ keyFiles))]

/-- The sources that a provider offers. -/
def providerSources : List (String × Shape) :=
  [("awsElasticBlockStore", readOnlyTexts ["fsType", "volumeID"] [("partition", integer32)]),
    ("azureDisk", readOnlyTexts ["cachingMode", "diskName", "diskURI", "fsType", "kind"] []),
    ("azureFile", readOnlyTexts ["secretName", "shareName"] []),
    ("cinder", readOnlyTexts ["fsType", "volumeID"] [("secretRef", localReference)]),
    ("gcePersistentDisk", readOnlyTexts ["fsType", "pdName"] [("partition", integer32)]),
    ("photonPersistentDisk", texts ["fsType", "pdID"]),
    ("vsphereVolume", texts ["fsType", "storagePolicyID", "storagePolicyName", "volumePath"])]

/-- The sources that are reached over a network or through a driver. -/
def externalSources : List (String × Shape) :=
  [("cephfs",
      readOnlyTexts ["path", "secretFile", "user"]
        [("monitors", list text), ("secretRef", localReference)]),
    ("csi",
      readOnlyTexts ["driver", "fsType"]
        [("nodePublishSecretRef", localReference), ("volumeAttributes", dictionary text)]),
    ("fc",
      readOnlyTexts ["fsType"]
        ([("lun", integer32)] ++ (list text).each ["targetWWNs", "wwids"])),
    ("flexVolume",
      readOnlyTexts ["driver", "fsType"]
        [("options", dictionary text), ("secretRef", localReference)]),
    ("flocker", texts ["datasetName", "datasetUUID"]),
    ("glusterfs", readOnlyTexts ["endpoints", "path"] []),
    ("iscsi",
      readOnlyTexts ["fsType", "initiatorName", "iqn", "iscsiInterface", "targetPortal"]
        (flag.each ["chapAuthDiscovery", "chapAuthSession"] ++
          [("lun", integer32), ("portals", list text), ("secretRef", localReference)])),
    ("nfs", readOnlyTexts ["path", "server"] []),
    ("portworxVolume", readOnlyTexts ["fsType", "volumeID"] []),
    ("quobyte", readOnlyTexts ["group", "registry", "tenant", "user", "volume"] []),
    ("rbd",
      readOnlyTexts ["fsType", "image", "keyring", "pool", "user"]
        [("monitors", list text), ("secretRef", localReference)]),
    ("scaleIO",
      readOnlyTexts
        ["fsType", "gateway", "protectionDomain", "storageMode", "storagePool", "system",
          "volumeName"]
        [("secretRef", localReference), ("sslEnabled", flag)]),
    ("storageos",
      readOnlyTexts ["fsType", "volumeName", "volumeNamespace"] [("secretRef", localReference)])]

def volume : Shape :=
  .record (("name", text) :: (internalSources ++ providerSources ++ externalSources))

end Tenancy.Rest.Shape
