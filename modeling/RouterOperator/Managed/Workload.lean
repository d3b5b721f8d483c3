import RouterOperator.Managed.Configuration
import RouterOperator.Kubernetes.Workload

/-!
# The workload of a cluster

The routers of a cluster run as a deployment, or as a daemon set when every node is to run one. Both
are made from one pod template with a single container. A live workload is compared by what this
module sets and the cluster leaves alone: image, environment, ports and mounts of the only
container, and the sources of the volumes.
-/

namespace RouterOperator

/-- The directory that the configuration is mounted at. -/
def configDirectory : String := "/etc/qpid-dispatch/"

/-- The label by which nodes are told apart. -/
def nodeLabel : String := "kubernetes.io/hostname"

/-- The image that routers run when neither the plan nor the operator's settings name another. -/
def defaultRouterImage : String := "quay.io/interconnectedcloud/qdrouterd:1.8.0"

/-- An environment variable with a fixed value. -/
def EnvVar.ofValue (name value : String) : EnvVar := { name, value := some value }

/-- An environment variable with the value of a field of the pod. -/
def EnvVar.ofField (name path : String) : EnvVar :=
  { name, valueFrom := some { fieldRef := some { apiVersion := some "v1", fieldPath := path } } }

namespace Interconnect

/-- The environment of a router. -/
def routerEnv (cluster : Interconnect) : List EnvVar := [
  .ofValue "APPLICATION_NAME" cluster.name,
  .ofValue "QDROUTERD_CONF" (configDirectory ++ templateKey),
  .ofValue "QDROUTERD_AUTO_MESH_DISCOVERY" "QUERY",
  .ofValue "POD_COUNT" (toString cluster.spec.deploymentPlan.size.toInt),
  .ofField "POD_NAMESPACE" "metadata.namespace",
  .ofField "POD_IP" "status.podIP"]

/-- The ports of a router, one for each listener. -/
def routerPorts (cluster : Interconnect) : List ContainerPort :=
  cluster.spec.allListeners.map fun listener =>
    { containerPort := listener.port, name := some listener.targetName, protocol := some "TCP" }

/-- The profile secrets of a cluster with the profile they belong to, in order. -/
def profileSecrets (cluster : Interconnect) : List (String × String) :=
  cluster.spec.sslProfiles.flatMap fun profile =>
    profile.secrets.map fun secret => (profile.name, secret)

/-- The mounts of a router: its configuration, then the secrets of its profiles. -/
def routerMounts (cluster : Interconnect) : List VolumeMount :=
  { name := cluster.name, mountPath := configDirectory } ::
    cluster.profileSecrets.map fun (profile, secret) =>
      { name := secret, mountPath := certificatePath profile secret }

/-- The volume of a secret. -/
def secretVolume (secret : String) : Volume :=
  { name := secret, secret := some { secretName := some secret } }

/-- The volumes of a router: its configuration, then the secrets of its profiles. A pod cannot
declare a volume twice, so a secret whose name is taken is passed over. -/
def routerVolumes (cluster : Interconnect) : List Volume :=
  cluster.profileSecrets.foldl
    (fun volumes (_, secret) =>
      if volumes.any (·.name = secret) then volumes else volumes ++ [secretVolume secret])
    [{ name := cluster.name, configMap := some { name := cluster.name } }]

/-- The single container of a router. -/
def routerContainer (cluster : Interconnect) (defaultImage : String) : Container where
  name := cluster.name
  image := some (cluster.routerImage defaultImage)
  env := some cluster.routerEnv
  livenessProbe := some {
    initialDelaySeconds := some 60
    httpGet := some { port := .number cluster.spec.deploymentPlan.livenessPort } }
  ports := some cluster.routerPorts
  resources := cluster.spec.deploymentPlan.resources
  volumeMounts := some cluster.routerMounts

/-- No two routers on one node, if the plan asks for it. -/
def routerAffinity (cluster : Interconnect) : Option Affinity :=
  if cluster.spec.deploymentPlan.placementOrAny = .antiAffinity then
    some { podAntiAffinity := some { required := some [{
      labelSelector := some { matchExpressions := some [{
        key := applicationLabel, operator := "In", values := some [cluster.name] }] }
      topologyKey := nodeLabel }] } }
  else none

/-- The pods of a cluster. -/
def podTemplate (cluster : Interconnect) (defaultImage : String) : PodTemplate where
  metadata := some { labels := some cluster.selectorLabels }
  spec := some {
    affinity := cluster.routerAffinity
    containers := [cluster.routerContainer defaultImage]
    serviceAccountName := some cluster.name
    volumes := some cluster.routerVolumes }

/-- Every node runs a router, so the workload is a daemon set. -/
def runsOnEveryNode (cluster : Interconnect) : Bool :=
  cluster.spec.deploymentPlan.placementOrAny = .every

/-- The deployment of a cluster. -/
def deployment (cluster : Interconnect) (defaultImage : String) : Deployment where
  metadata := cluster.ownedMeta cluster.name
  spec := some {
    replicas := some cluster.spec.deploymentPlan.size
    selector := { matchLabels := some cluster.selectorLabels }
    template := cluster.podTemplate defaultImage }

/-- The daemon set of a cluster. -/
def daemonSet (cluster : Interconnect) (defaultImage : String) : DaemonSet where
  metadata := cluster.ownedMeta cluster.name
  spec := some {
    selector := { matchLabels := some cluster.selectorLabels }
    template := cluster.podTemplate defaultImage }

end Interconnect

/-- A volume reduced to its name and the names of its sources. -/
def Volume.source (volume : Volume) : String × Option String × Option String :=
  (volume.name, volume.configMap.map (·.name), volume.secret.bind (·.secretName))

/-- The sources of the volumes, none if there are no volumes. -/
def PodSpec.volumeSources (spec : PodSpec) : List (String × Option String × Option String) :=
  (spec.volumes.getD []).map Volume.source

namespace PodTemplate

/-- The first container. -/
def firstContainer (template : PodTemplate) : Option Container :=
  template.spec.bind (·.containers.head?)

/-- The container of a template that has only one. -/
def onlyContainer (template : PodTemplate) : Option Container :=
  match template.spec.map (·.containers) with
  | some [container] => some container
  | _ => none

/-- The sources of the volumes, none if there is no specification. -/
def volumeSources (template : PodTemplate) : List (String × Option String × Option String) :=
  (template.spec.map (·.volumeSources)).getD []

/-- The image of the first container. -/
def image (template : PodTemplate) : Option String := template.firstContainer.bind (·.image)

/-- The containers or volumes differ in what is compared. Nothing differs from a template without
containers, and everything does from a live one that does not have exactly one. -/
def drifted (current desired : PodTemplate) : Bool :=
  match desired.firstContainer, current.onlyContainer with
  | none, _ => false
  | some _, none => true
  | some wanted, some live =>
    live.image ≠ wanted.image || live.env ≠ wanted.env || live.ports ≠ wanted.ports ||
      live.volumeMounts ≠ wanted.volumeMounts || current.volumeSources ≠ desired.volumeSources

/-- The live template with the desired containers and volumes. -/
def updated (current desired : PodTemplate) : PodTemplate :=
  match desired.spec with
  | none => current
  | some wanted =>
    { current with
      spec := some { current.spec.getD {} with
        containers := wanted.containers
        volumes := wanted.volumes } }

end PodTemplate

namespace Deployment

/-- The pod template. -/
def template (deployment : Deployment) : Option PodTemplate := deployment.spec.map (·.template)

/-- The image that the pods run. -/
def image (deployment : Deployment) : Option String := deployment.template.bind (·.image)

/-- The number of pods, one unless it is set. -/
def replicaCount (deployment : Deployment) : Int32 :=
  (deployment.spec.bind (·.replicas)).getD 1

/-- The pod templates differ, or the live deployment has none. -/
def drifted (current desired : Deployment) : Bool :=
  match current.template, desired.template with
  | some live, some wanted => live.drifted wanted
  | none, some _ => true
  | _, none => false

/-- The live deployment with the desired containers and volumes, or with all that is desired if it
specifies nothing. -/
def updated (current desired : Deployment) : Deployment :=
  match current.spec, desired.spec with
  | some live, some wanted =>
    { current with spec := some { live with template := live.template.updated wanted.template } }
  | none, wanted => { current with spec := wanted }
  | some _, none => current

/-- The live deployment with another number of pods, if it specifies anything. -/
def resized (deployment : Deployment) (size : Int32) : Deployment :=
  { deployment with spec := deployment.spec.map fun spec => { spec with replicas := some size } }

end Deployment

namespace DaemonSet

/-- The pod template. -/
def template (daemonSet : DaemonSet) : Option PodTemplate := daemonSet.spec.map (·.template)

/-- The image that the pods run. -/
def image (daemonSet : DaemonSet) : Option String := daemonSet.template.bind (·.image)

/-- The pod templates differ, or the live daemon set has none. -/
def drifted (current desired : DaemonSet) : Bool :=
  match current.template, desired.template with
  | some live, some wanted => live.drifted wanted
  | none, some _ => true
  | _, none => false

/-- The live daemon set with the desired containers and volumes, or with all that is desired if it
specifies nothing. -/
def updated (current desired : DaemonSet) : DaemonSet :=
  match current.spec, desired.spec with
  | some live, some wanted =>
    { current with spec := some { live with template := live.template.updated wanted.template } }
  | none, wanted => { current with spec := wanted }
  | some _, none => current

end DaemonSet

end RouterOperator
