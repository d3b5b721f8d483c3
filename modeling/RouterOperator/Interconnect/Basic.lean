import RouterOperator.Kubernetes.Kinded
import RouterOperator.Interconnect.Spec
import RouterOperator.Interconnect.Status

/-!
# Router clusters

An `Interconnect` is a cluster of message routers as a user declares it: metadata, a specification
and the status the operator reports. The names and labels of everything made for a cluster derive
from its name.
-/

namespace RouterOperator

/-- A cluster of message routers. -/
structure Interconnect where
  metadata : ObjectMeta
  spec : InterconnectSpec
  status : Option InterconnectStatus := none

/-- The label that names the application. -/
def applicationLabel : String := "application"

/-- The label that names the cluster an object was made for. -/
def clusterLabel : String := "interconnect_cr"

/-- The directory that the secrets of TLS profiles are mounted under. -/
def certificateDirectory : String := "/etc/qpid-dispatch-certs"

/-- The directory a profile's secret is mounted at; the configuration points into it. -/
def certificatePath (profile secret : String) : String :=
  s!"{certificateDirectory}/{profile}/{secret}"

namespace Interconnect

/-- The API type of clusters. -/
def apiType : ApiType :=
  ⟨"interconnectedcloud.github.io/v1alpha1", "Interconnect", "interconnects"⟩

/-- Reads a cluster. -/
def ofJson? (json : Json) : Option Interconnect := do
  let members ← json.record? ["metadata", "spec", "status"] 3
  return {
    metadata := ← members.required "metadata" ObjectMeta.ofJson?
    spec := ← members.required "spec" InterconnectSpec.ofJson?
    status := ← members.optional "status" InterconnectStatus.ofJson? }

/-- Writes a cluster. -/
def toJson (cluster : Interconnect) : Json :=
  .ofFields <| apiType.fields ++ [
    ("metadata", some cluster.metadata.toJson),
    ("spec", some cluster.spec.toJson),
    ("status", cluster.status.map InterconnectStatus.toJson)]

/-- The name of the cluster, and of most objects made for it. -/
def name (cluster : Interconnect) : String := cluster.metadata.anyName

/-- The namespace of the cluster, or nothing. -/
def space (cluster : Interconnect) : String := cluster.metadata.anySpace

/-- The labels that every object made for the cluster carries. -/
def selectorLabels (cluster : Interconnect) : Dict String :=
  .ofList [(applicationLabel, cluster.name), (clusterLabel, cluster.name)]

/-- The selector of the pods made for the cluster. -/
def labelSelector (cluster : Interconnect) : String :=
  s!"{applicationLabel}={cluster.name},{clusterLabel}={cluster.name}"

/-- A reference to the cluster as the owner of an object, if it has a name and an identity. -/
def ownerReference? (cluster : Interconnect) : Option OwnerReference := do
  let name ← cluster.metadata.name
  let uid ← cluster.metadata.uid
  return {
    apiVersion := apiType.apiVersion
    controller := some true
    kind := apiType.kind
    name
    uid }

/-- The metadata of an object made for the cluster. -/
def ownedMeta (cluster : Interconnect) (name : String) : ObjectMeta where
  name := some name
  ns := cluster.metadata.ns
  labels := some cluster.selectorLabels
  ownerReferences := cluster.ownerReference?.map fun owner => [owner]

/-- The host name of the cluster's service within the network of the platform. -/
def serviceHost (cluster : Interconnect) : String :=
  s!"{cluster.name}.{cluster.space}.svc.cluster.local"

/-- The name of the object that exposes a listener. -/
def exposureName (cluster : Interconnect) (listener : Listener) : String :=
  s!"{cluster.name}-{listener.targetName}"

/-- The host name under which a listener is exposed. -/
def exposureHost (cluster : Interconnect) (listener : Listener) : String :=
  s!"{cluster.exposureName listener}.{cluster.space}"

/-- The status, or the one of a cluster never seen before. -/
def statusOrNew (cluster : Interconnect) : InterconnectStatus := cluster.status.getD {}

/-- The image that the routers run, `fallback` unless the plan names one. -/
def routerImage (cluster : Interconnect) (fallback : String) : String :=
  (Text.given cluster.spec.deploymentPlan.image).getD fallback

end Interconnect

end RouterOperator
