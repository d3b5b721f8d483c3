import RouterOperator.Kubernetes.Pod

/-!
# Workloads

A deployment runs a number of interchangeable pods, a daemon set runs one pod on every node.
-/

namespace RouterOperator

/-- What a deployment runs. -/
structure DeploymentSpec where
  replicas : Option Int32 := none
  selector : LabelSelector := {}
  template : PodTemplate := {}
  unmanaged : Dict Json := .empty

/-- A workload with a number of interchangeable pods. -/
structure Deployment where
  metadata : ObjectMeta := {}
  spec : Option DeploymentSpec := none
  status : Option Json := none

/-- What a daemon set runs. -/
structure DaemonSetSpec where
  selector : LabelSelector := {}
  template : PodTemplate := {}
  unmanaged : Dict Json := .empty

/-- A workload with one pod on every node. -/
structure DaemonSet where
  metadata : ObjectMeta := {}
  spec : Option DaemonSetSpec := none
  status : Option Json := none

namespace DeploymentSpec

/-- Reads what a deployment runs. -/
def ofJson? (json : Json) : Option DeploymentSpec := do
  let members ← json.members?
  return {
    replicas := ← members.optional "replicas" Json.int32?
    selector := ← members.orDefault "selector" LabelSelector.ofJson? {}
    template := ← members.orDefault "template" PodTemplate.ofClean? {}
    unmanaged := members.without ["replicas", "selector", "template"] }

/-- Writes what a deployment runs. -/
def toJson (spec : DeploymentSpec) : Json :=
  .ofFieldsAnd [
    ("replicas", spec.replicas.map .int32),
    ("selector", some spec.selector.toJson),
    ("template", some spec.template.toJson)] spec.unmanaged

end DeploymentSpec

namespace Deployment

/-- The API type of deployments. -/
def apiType : ApiType := ⟨"apps/v1", "Deployment", "deployments"⟩

/-- Reads a deployment. -/
def ofJson? (json : Json) : Option Deployment := do
  let members ← apiType.clean? Schema.deployment json
  return {
    metadata := ← members.orDefault "metadata" ObjectMeta.ofJson? {}
    spec := ← members.optional "spec" DeploymentSpec.ofJson?
    status := members.get? "status" }

/-- Writes a deployment. -/
def toJson (deployment : Deployment) : Json :=
  .ofFields <| apiType.fields ++ [
    ("metadata", some deployment.metadata.toJson),
    ("spec", deployment.spec.map DeploymentSpec.toJson),
    ("status", deployment.status)]

end Deployment

namespace DaemonSetSpec

/-- Reads what a daemon set runs. -/
def ofJson? (json : Json) : Option DaemonSetSpec := do
  let members ← json.members?
  return {
    selector := ← members.orDefault "selector" LabelSelector.ofJson? {}
    template := ← members.orDefault "template" PodTemplate.ofClean? {}
    unmanaged := members.without ["selector", "template"] }

/-- Writes what a daemon set runs. -/
def toJson (spec : DaemonSetSpec) : Json :=
  .ofFieldsAnd [
    ("selector", some spec.selector.toJson),
    ("template", some spec.template.toJson)] spec.unmanaged

end DaemonSetSpec

namespace DaemonSet

/-- The API type of daemon sets. -/
def apiType : ApiType := ⟨"apps/v1", "DaemonSet", "daemonsets"⟩

/-- Reads a daemon set. -/
def ofJson? (json : Json) : Option DaemonSet := do
  let members ← apiType.clean? Schema.daemonSet json
  return {
    metadata := ← members.orDefault "metadata" ObjectMeta.ofJson? {}
    spec := ← members.optional "spec" DaemonSetSpec.ofJson?
    status := members.get? "status" }

/-- Writes a daemon set. -/
def toJson (daemonSet : DaemonSet) : Json :=
  .ofFields <| apiType.fields ++ [
    ("metadata", some daemonSet.metadata.toJson),
    ("spec", daemonSet.spec.map DaemonSetSpec.toJson),
    ("status", daemonSet.status)]

end DaemonSet

end RouterOperator
