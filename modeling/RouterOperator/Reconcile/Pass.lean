import RouterOperator.Interconnect.Defaults
import RouterOperator.Reconcile.Program

/-!
# Reconcile passes

A pass walks a checklist of the objects a cluster should have, in the order they depend on each
other, and ends after the first change it makes. A pass over a cluster that has everything changes
nothing. Each read and write is preceded by a check of the deadline, apart from the status write
that records a change of the workload already made.
-/

namespace RouterOperator

/-- Which optional APIs the platform serves. -/
structure Capabilities where
  /-- Certificates can be issued. -/
  certManager : Bool := false
  /-- Listeners are exposed by routes rather than ingresses. -/
  routes : Bool := false
deriving DecidableEq, Inhabited

/-- What all passes share: the capabilities of the platform and the image of routers whose plan
names none. -/
structure Settings where
  capabilities : Capabilities := {}
  routerImage : String := defaultRouterImage
deriving DecidableEq, Inhabited

/-- What a pass did. -/
inductive Outcome where
  | created (kind : Kind) (name : String)
  | updated (kind : Kind) (name : String)
  | statusUpdated
  | specUpdated
  /-- The specification cannot be satisfied; there is nothing to do until it changes. -/
  | blocked (reason : String)
  /-- Everything is present and correct. -/
  | idle
deriving DecidableEq

namespace Outcome

/-- Whether another pass is to follow at once. -/
def requeue : Outcome → Bool
  | blocked _ | idle => false
  | _ => true

/-- The text of an outcome. -/
def text : Outcome → String
  | created kind name => s!"created {kind.name} {name}"
  | updated kind name => s!"updated {kind.name} {name}"
  | statusUpdated => "updated status"
  | specUpdated => "updated spec"
  | blocked reason => s!"blocked: {reason}"
  | idle => "idle"

end Outcome

/-- What became of an object that was to be brought to a desired state. -/
inductive Ensured (kind : Kind) where
  | unchanged (live : kind.Object)
  | created
  | updated (previous : kind.Object)

/-- The outcome of a pass that ends with the change, if there was one. -/
def Ensured.outcome? {kind : Kind} (ensured : Ensured kind) (name : String) : Option Outcome :=
  match ensured with
  | unchanged _ => none
  | created => some (.created kind name)
  | updated _ => some (.updated kind name)

/-- A pass over one cluster: the cluster, its namespace, the settings, the time, and the status it
had at the start. -/
structure Pass where
  cluster : Interconnect
  ns : String
  settings : Settings
  now : Timestamp
  status : InterconnectStatus

/-- A stage of a pass, with the outcome if it ends the pass. -/
abbrev Stage := Program (Option Outcome)

namespace Pass

open Program

/-- Brings an object to a desired state: creates it if it is absent, updates it if it has
drifted. -/
def ensure (pass : Pass) (kind : Kind) (desired : kind.Object) : Program (Ensured kind) := do
  let name := kind.nameOf desired
  checkpoint s!"get {kind.name} {name}"
  match ← request (.get kind pass.ns name) with
  | none =>
    checkpoint s!"create {kind.name} {name}"
    request (.create kind pass.ns desired)
    return .created
  | some live =>
    if kind.drifted live desired then
      checkpoint s!"update {kind.name} {name}"
      request (.replace kind pass.ns (kind.updated live desired))
      return .updated live
    else
      return .unchanged live

/-- The stage that brings an object to a desired state. -/
def ensureStage (pass : Pass) (kind : Kind) (desired : kind.Object) : Stage := do
  let ensured ← pass.ensure kind desired
  return ensured.outcome? (kind.nameOf desired)

/-- Stores the specification of the cluster. -/
def persistSpec (cluster : Interconnect) : Program Unit := do
  checkpoint "update Interconnect"
  request (.replaceCluster cluster)

/-- Stores a status. -/
def writeStatus (pass : Pass) (status : InterconnectStatus) : Program Outcome := do
  checkpoint "update Interconnect status"
  request (.replaceStatus { pass.cluster with status := some status })
  return .statusUpdated

/-- Stores the status that records a change made already, whatever the deadline. -/
def record (pass : Pass) (status : InterconnectStatus) : Program Interconnect := do
  let cluster := { pass.cluster with status := some status }
  request (.replaceStatus cluster)
  return cluster

/-- The image that the routers are to run. -/
def image (pass : Pass) : String := pass.cluster.routerImage pass.settings.routerImage

/-- A status with the upgrade recorded, if the routers ran another image. -/
def upgraded (pass : Pass) (status : InterconnectStatus) (previous : Option String) :
    InterconnectStatus :=
  if previous = some pass.image then status
  else status.reach pass.now .upgrading s!"upgrading to {pass.image}"

/-- The stages for the access of routers to the cluster. -/
def accessStages (pass : Pass) : List Stage := [
  pass.ensureStage .role pass.cluster.role,
  pass.ensureStage .roleBinding pass.cluster.roleBinding,
  pass.ensureStage .serviceAccount pass.cluster.serviceAccount]

/-- Issues the next piece that a TLS profile lacks and stores its secret in the specification. A
certificate left by an earlier pass is only recorded. -/
def issueStage (pass : Pass) : Stage :=
  match pass.cluster.pendingStep with
  | none => return none
  | some step => do
    let certificate := pass.cluster.stepCertificate step
    let created ← pass.ensureStage .certificate certificate
    persistSpec (pass.cluster.stamped step)
    return some (created.getD .specUpdated)

/-- The stages for certificates: the cluster's own authority unless there is an external one, the
issuer of profile certificates, and the next profile certificate. -/
def certificateStages (pass : Pass) : List Stage :=
  (if pass.cluster.spec.deploymentPlan.externalIssuer.isNone then [
    pass.ensureStage .issuer pass.cluster.selfSignedIssuer,
    pass.ensureStage .certificate pass.cluster.selfSignedCa] else []) ++ [
  pass.ensureStage .issuer pass.cluster.caIssuer,
  pass.issueStage]

/-- Whether a workload of another kind exists, left behind by a change of placement. -/
def hasWorkload (pass : Pass) (kind : Kind) : Program Bool := do
  checkpoint s!"get {kind.name} {pass.cluster.name}"
  let existing ← request (.get kind pass.ns pass.cluster.name)
  return existing.isSome

/-- Records the creation of the workload. -/
def workloadCreated (pass : Pass) (outcome : Outcome) : Stage := do
  let cluster ← pass.record
    (pass.status.reach pass.now .deployed "router workload deployed")
  request (.publish cluster ⟨.normal, "Deployed", s!"Router workload {outcome.text}"⟩)
  return some outcome

/-- Records an update of the workload, if it brought another image. -/
def workloadUpdated (pass : Pass) (outcome : Outcome) (previousImage : Option String) : Stage := do
  if previousImage ≠ some pass.image then
    let _ ← pass.record (pass.upgraded pass.status previousImage)
  return some outcome

/-- Brings the workload to its desired state and records the change. `imageOf` gives the image that
a workload runs. -/
def ensureWorkload (pass : Pass) (kind : Kind) (desired : kind.Object)
    (imageOf : kind.Object → Option String) : Stage := do
  let name := kind.nameOf desired
  match ← pass.ensure kind desired with
  | .unchanged _ => return none
  | .created => pass.workloadCreated (.created kind name)
  | .updated previous => pass.workloadUpdated (.updated kind name) (imageOf previous)

/-- Brings a live deployment to the size that is asked for. Its pods are told their number, so the
template is updated in the same write. -/
def resizeStage (pass : Pass) : Stage := do
  let desired := pass.cluster.deployment pass.settings.routerImage
  let name := pass.cluster.name
  checkpoint s!"get {Kind.deployment.name} {name}"
  match ← request (.get .deployment pass.ns name) with
  | none => return none
  | some live =>
    let size := pass.cluster.spec.deploymentPlan.size
    let current := live.replicaCount
    if current = size then return none
    else
      let liveName := live.metadata.anyName
      checkpoint s!"scale {Kind.deployment.name} {liveName}"
      request (.replace .deployment pass.ns ((live.updated desired).resized size))
      let resized :=
        if current < size then pass.status.reach pass.now .scalingUp "scaling up"
        else pass.status.reach pass.now .scalingDown "scaling down"
      let cluster ← pass.record { pass.upgraded resized live.image with pods := [] }
      request (.publish cluster
        ⟨.normal, "Scaled",
          "Scaled Deployment `" ++ liveName ++ "` from " ++
            s!"{current.toInt} to {size.toInt}"⟩)
      return some (.updated .deployment name)

/-- The stage for the workload. A workload of the other kind keeps serving and counts as the
workload of the cluster. -/
def workloadStage (pass : Pass) : Stage := do
  let image := pass.settings.routerImage
  if pass.cluster.runsOnEveryNode then
    if ← pass.hasWorkload .deployment then return none
    else pass.ensureWorkload .daemonSet (pass.cluster.daemonSet image) DaemonSet.image
  else
    if ← pass.hasWorkload .daemonSet then return none
    else firstSome [
      pass.resizeStage,
      pass.ensureWorkload .deployment (pass.cluster.deployment image) Deployment.image]

/-- The stage that exposes a listener. -/
def exposureStage (pass : Pass) (listener : Listener) : Stage :=
  if pass.settings.capabilities.routes then
    pass.ensureStage .route (pass.cluster.route listener)
  else pass.ensureStage .ingress (pass.cluster.ingress listener)

/-- The checklist of a pass, in the order in which objects depend on each other. -/
def stages (pass : Pass) (requestCert : Bool) : List Stage :=
  pass.accessStages ++ (if requestCert then pass.certificateStages else []) ++ [
    pass.ensureStage .configMap pass.cluster.configMap,
    pass.workloadStage,
    pass.ensureStage .service (pass.cluster.service requestCert)] ++
  pass.cluster.spec.exposedListeners.map pass.exposureStage

/-- Reports the pods of the cluster that are not about to end, and that everything is in place. -/
def aggregatePods (pass : Pass) : Program Outcome := do
  checkpoint "list pods"
  let pods ← request (.listPods pass.ns pass.cluster.labelSelector)
  let live := pods.filter fun pod => pod.metadata.deletionTimestamp.isNone
  let status : InterconnectStatus :=
    { pass.status.on .converged with pods := live.map fun pod => pod.metadata.anyName }
  if status.pods = pass.status.pods ∧ status.phase = pass.status.phase then return .idle
  else pass.writeStatus status

/-- Why a specification cannot be satisfied, naming the profiles it fails for. -/
def blockedReason (profiles : List String) : String :=
  "sslProfiles " ++ String.intercalate ", " profiles ++
    " need certificates but cert-manager is not installed"

/-- Reports that the specification cannot be satisfied, once. -/
def block (pass : Pass) (reason : String) : Program Outcome := do
  if pass.status.phase ≠ .failed then
    let status := pass.status.on .blocked
    let _ ← pass.writeStatus status
    request (.publish { pass.cluster with status := some status } ⟨.warning, "Failed", reason⟩)
  return .blocked reason

/-- Records that a cluster is seen for the first time. -/
def firstTouch (pass : Pass) : Program Outcome :=
  let seen := { pass.status.on .firstTouch with
    revNumber := pass.cluster.metadata.resourceVersion.getD "" }
  pass.writeStatus (seen.reach pass.now .provisioning "provision spec to desired state")

/-- A pass over a cluster with its defaults. -/
def afterDefaults (pass : Pass) (requestCert : Bool) : Program Outcome :=
  let unsatisfiable := pass.cluster.spec.unsatisfiable
  if !pass.settings.capabilities.certManager && !unsatisfiable.isEmpty then
    pass.block (blockedReason unsatisfiable)
  else if pass.status.phase = .failed then pass.writeStatus (pass.status.on .unblocked)
  else do
    match ← firstSome (pass.stages requestCert) with
    | some outcome => return outcome
    | none => pass.aggregatePods

/-- A pass over a cluster. -/
def program (pass : Pass) : Program Outcome :=
  if pass.status.revNumber = "" then pass.firstTouch
  else
    let normalized := pass.cluster.spec.normalize pass.settings.capabilities.certManager
    let cluster := { pass.cluster with spec := normalized.spec }
    if normalized.changed then do
      persistSpec cluster
      return .specUpdated
    else { pass with cluster }.afterDefaults normalized.requestCert

end Pass

/-- One pass over a cluster, which must have a namespace. -/
def reconcile (settings : Settings) (now : Timestamp) (cluster : Interconnect) : Program Outcome :=
  match cluster.metadata.ns with
  | none => .fail (.missingObjectKey "namespace")
  | some ns => Pass.program { cluster, ns, settings, now, status := cluster.statusOrNew }

end RouterOperator
