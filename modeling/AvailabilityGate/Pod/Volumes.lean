import AvailabilityGate.Shape

/-!
Owns the shapes of the volumes of a pod: where each kind of storage is found and how it is mounted.
-/

namespace AvailabilityGate.Pod

def localReference : Shape :=
  .record "LocalObjectReference" [("name", .text)]

/-- A part of a map or of a secret, and the file that it becomes. -/
def keyToPath : Shape :=
  .record "KeyToPath" [("key", .text), ("mode", .int32), ("path", .text)]

def fieldSelector : Shape :=
  .record "ObjectFieldSelector" [("apiVersion", .text), ("fieldPath", .text)]

def resourceFieldSelector : Shape :=
  .record "ResourceFieldSelector"
    [("containerName", .text), ("divisor", .text), ("resource", .text)]

/-! ### Storage by its own protocol -/

def awsElasticBlockStore : Shape :=
  .record "AWSElasticBlockStoreVolumeSource"
    [("fsType", .text), ("partition", .int32), ("readOnly", .bool), ("volumeID", .text)]

def azureDisk : Shape :=
  .record "AzureDiskVolumeSource"
    [("cachingMode", .text), ("diskName", .text), ("diskURI", .text), ("fsType", .text),
      ("kind", .text), ("readOnly", .bool)]

def azureFile : Shape :=
  .record "AzureFileVolumeSource"
    [("readOnly", .bool), ("secretName", .text), ("shareName", .text)]

def cephfs : Shape :=
  .record "CephFSVolumeSource"
    [("monitors", .list .text), ("path", .text), ("readOnly", .bool), ("secretFile", .text),
      ("secretRef", localReference), ("user", .text)]

def cinder : Shape :=
  .record "CinderVolumeSource"
    [("fsType", .text), ("readOnly", .bool), ("secretRef", localReference), ("volumeID", .text)]

def csi : Shape :=
  .record "CSIVolumeSource"
    [("driver", .text), ("fsType", .text), ("nodePublishSecretRef", localReference),
      ("readOnly", .bool), ("volumeAttributes", .table .text)]

def fibreChannel : Shape :=
  .record "FCVolumeSource"
    [("fsType", .text), ("lun", .int32), ("readOnly", .bool), ("targetWWNs", .list .text),
      ("wwids", .list .text)]

def flexVolume : Shape :=
  .record "FlexVolumeSource"
    [("driver", .text), ("fsType", .text), ("options", .table .text), ("readOnly", .bool),
      ("secretRef", localReference)]

def flocker : Shape :=
  .record "FlockerVolumeSource" [("datasetName", .text), ("datasetUUID", .text)]

def gcePersistentDisk : Shape :=
  .record "GCEPersistentDiskVolumeSource"
    [("fsType", .text), ("partition", .int32), ("pdName", .text), ("readOnly", .bool)]

def gitRepo : Shape :=
  .record "GitRepoVolumeSource"
    [("directory", .text), ("repository", .text), ("revision", .text)]

def glusterfs : Shape :=
  .record "GlusterfsVolumeSource" [("endpoints", .text), ("path", .text), ("readOnly", .bool)]

def iscsi : Shape :=
  .record "ISCSIVolumeSource"
    [("chapAuthDiscovery", .bool), ("chapAuthSession", .bool), ("fsType", .text),
      ("initiatorName", .text), ("iqn", .text), ("iscsiInterface", .text), ("lun", .int32),
      ("portals", .list .text), ("readOnly", .bool), ("secretRef", localReference),
      ("targetPortal", .text)]

def nfs : Shape :=
  .record "NFSVolumeSource" [("path", .text), ("readOnly", .bool), ("server", .text)]

def photonPersistentDisk : Shape :=
  .record "PhotonPersistentDiskVolumeSource" [("fsType", .text), ("pdID", .text)]

def portworxVolume : Shape :=
  .record "PortworxVolumeSource" [("fsType", .text), ("readOnly", .bool), ("volumeID", .text)]

def quobyte : Shape :=
  .record "QuobyteVolumeSource"
    [("group", .text), ("readOnly", .bool), ("registry", .text), ("tenant", .text),
      ("user", .text), ("volume", .text)]

def rbd : Shape :=
  .record "RBDVolumeSource"
    [("fsType", .text), ("image", .text), ("keyring", .text), ("monitors", .list .text),
      ("pool", .text), ("readOnly", .bool), ("secretRef", localReference), ("user", .text)]

def scaleIO : Shape :=
  .record "ScaleIOVolumeSource"
    [("fsType", .text), ("gateway", .text), ("protectionDomain", .text), ("readOnly", .bool),
      ("secretRef", localReference), ("sslEnabled", .bool), ("storageMode", .text),
      ("storagePool", .text), ("system", .text), ("volumeName", .text)]

def storageos : Shape :=
  .record "StorageOSVolumeSource"
    [("fsType", .text), ("readOnly", .bool), ("secretRef", localReference),
      ("volumeName", .text), ("volumeNamespace", .text)]

def vsphereVolume : Shape :=
  .record "VsphereVirtualDiskVolumeSource"
    [("fsType", .text), ("storagePolicyID", .text), ("storagePolicyName", .text),
      ("volumePath", .text)]

/-! ### Storage that the cluster provides -/

def configMap : Shape :=
  .record "ConfigMapVolumeSource"
    [("defaultMode", .int32), ("items", .list keyToPath), ("name", .text), ("optional", .bool)]

def downwardFile : Shape :=
  .record "DownwardAPIVolumeFile"
    [("fieldRef", fieldSelector), ("mode", .int32), ("path", .text),
      ("resourceFieldRef", resourceFieldSelector)]

def downward : Shape :=
  .record "DownwardAPIVolumeSource"
    [("defaultMode", .int32), ("items", .list downwardFile)]

def emptyDir : Shape :=
  .record "EmptyDirVolumeSource" [("medium", .text), ("sizeLimit", .text)]

def claimSpec : Shape :=
  .record "PersistentVolumeClaimSpec"
    [("accessModes", .list .text),
      ("dataSource", .record "TypedLocalObjectReference"
        [("apiGroup", .text), ("kind", .text), ("name", .text)]),
      ("dataSourceRef", .record "TypedObjectReference"
        [("apiGroup", .text), ("kind", .text), ("name", .text), ("namespace", .text)]),
      ("resources", .record "VolumeResourceRequirements"
        [("limits", .table .text), ("requests", .table .text)]),
      ("selector", .selector), ("storageClassName", .text),
      ("volumeAttributesClassName", .text), ("volumeMode", .text), ("volumeName", .text)]

def ephemeral : Shape :=
  .record "EphemeralVolumeSource"
    [("volumeClaimTemplate", .record "PersistentVolumeClaimTemplate"
      [("metadata", .metadata), ("spec", claimSpec)])]

def hostPath : Shape :=
  .record "HostPathVolumeSource" [("path", .text), ("type", .text)]

def image : Shape :=
  .record "ImageVolumeSource" [("pullPolicy", .text), ("reference", .text)]

def claim : Shape :=
  .record "PersistentVolumeClaimVolumeSource" [("claimName", .text), ("readOnly", .bool)]

def secret : Shape :=
  .record "SecretVolumeSource"
    [("defaultMode", .int32), ("items", .list keyToPath), ("optional", .bool),
      ("secretName", .text)]

/-- One of several sources that are mounted together. -/
def projection : Shape :=
  .record "VolumeProjection"
    [("clusterTrustBundle", .record "ClusterTrustBundleProjection"
        [("labelSelector", .selector), ("name", .text), ("optional", .bool), ("path", .text),
          ("signerName", .text)]),
      ("configMap", .record "ConfigMapProjection"
        [("items", .list keyToPath), ("name", .text), ("optional", .bool)]),
      ("downwardAPI", .record "DownwardAPIProjection" [("items", .list downwardFile)]),
      ("secret", .record "SecretProjection"
        [("items", .list keyToPath), ("name", .text), ("optional", .bool)]),
      ("serviceAccountToken", .record "ServiceAccountTokenProjection"
        [("audience", .text), ("expirationSeconds", .int64), ("path", .text)])]

def projected : Shape :=
  .record "ProjectedVolumeSource"
    [("defaultMode", .int32), ("sources", .list projection)]

def volume : Shape :=
  .record "Volume"
    [("awsElasticBlockStore", awsElasticBlockStore), ("azureDisk", azureDisk),
      ("azureFile", azureFile), ("cephfs", cephfs), ("cinder", cinder), ("configMap", configMap),
      ("csi", csi), ("downwardAPI", downward), ("emptyDir", emptyDir), ("ephemeral", ephemeral),
      ("fc", fibreChannel), ("flexVolume", flexVolume), ("flocker", flocker),
      ("gcePersistentDisk", gcePersistentDisk), ("gitRepo", gitRepo), ("glusterfs", glusterfs),
      ("hostPath", hostPath), ("image", image), ("iscsi", iscsi), ("name", .text), ("nfs", nfs),
      ("persistentVolumeClaim", claim), ("photonPersistentDisk", photonPersistentDisk),
      ("portworxVolume", portworxVolume), ("projected", projected), ("quobyte", quobyte),
      ("rbd", rbd), ("scaleIO", scaleIO), ("secret", secret), ("storageos", storageos),
      ("vsphereVolume", vsphereVolume)]

end AvailabilityGate.Pod
