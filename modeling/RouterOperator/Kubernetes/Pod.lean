import RouterOperator.Kubernetes.Container

/-!
# Pods

Volumes, the specification of a pod, pods themselves and the templates that workloads make them
from.
-/

namespace RouterOperator

/-- A requirement on a label. -/
structure LabelRequirement where
  key : String
  operator : String
  values : Option (List String) := none
deriving DecidableEq

/-- A selection of objects by their labels. -/
structure LabelSelector where
  matchExpressions : Option (List LabelRequirement) := none
  matchLabels : Option (Dict String) := none
deriving DecidableEq

/-- Pods to be placed near to or far from, and what counts as near. -/
structure PodAffinityTerm where
  labelSelector : Option LabelSelector := none
  topologyKey : String
  unmanaged : Dict Json := .empty

/-- Pods to be placed far from; `required` holds for the time of scheduling. -/
structure PodAntiAffinity where
  required : Option (List PodAffinityTerm) := none
  unmanaged : Dict Json := .empty

/-- Constraints on the node a pod is placed on. -/
structure Affinity where
  podAntiAffinity : Option PodAntiAffinity := none
  unmanaged : Dict Json := .empty

/-- A config map as a volume. -/
structure ConfigMapVolume where
  name : String := ""
  unmanaged : Dict Json := .empty

/-- A secret as a volume. -/
structure SecretVolume where
  secretName : Option String := none
  unmanaged : Dict Json := .empty

/-- A volume of a pod. -/
structure Volume where
  name : String
  configMap : Option ConfigMapVolume := none
  secret : Option SecretVolume := none
  unmanaged : Dict Json := .empty

/-- What a pod runs. -/
structure PodSpec where
  affinity : Option Affinity := none
  containers : List Container := []
  serviceAccountName : Option String := none
  volumes : Option (List Volume) := none
  unmanaged : Dict Json := .empty

/-- The pods a workload makes. -/
structure PodTemplate where
  metadata : Option ObjectMeta := none
  spec : Option PodSpec := none

/-- A pod. -/
structure Pod where
  metadata : ObjectMeta := {}
  spec : Option Json := none
  status : Option Json := none

namespace LabelRequirement

/-- Reads a requirement. -/
def ofJson? (json : Json) : Option LabelRequirement := do
  let members ← json.members?
  return {
    key := ← members.orDefault "key" Json.string? ""
    operator := ← members.orDefault "operator" Json.string? ""
    values := ← members.optional "values" Json.strings? }

/-- Writes a requirement. -/
def toJson (requirement : LabelRequirement) : Json :=
  .ofFields [
    ("key", some (.string requirement.key)),
    ("operator", some (.string requirement.operator)),
    ("values", requirement.values.map .strings)]

end LabelRequirement

namespace LabelSelector

/-- Reads a selection. -/
def ofJson? (json : Json) : Option LabelSelector := do
  let members ← json.members?
  return {
    matchExpressions :=
      ← members.optional "matchExpressions" (Json.listOf? LabelRequirement.ofJson?)
    matchLabels := ← members.optional "matchLabels" Json.texts? }

/-- Writes a selection. -/
def toJson (selector : LabelSelector) : Json :=
  .ofFields [
    ("matchExpressions", selector.matchExpressions.map (.list LabelRequirement.toJson)),
    ("matchLabels", selector.matchLabels.map .texts)]

end LabelSelector

namespace PodAffinityTerm

/-- Reads a term. -/
def ofJson? (json : Json) : Option PodAffinityTerm := do
  let members ← json.members?
  return {
    labelSelector := ← members.optional "labelSelector" LabelSelector.ofJson?
    topologyKey := ← members.orDefault "topologyKey" Json.string? ""
    unmanaged := members.without ["labelSelector", "topologyKey"] }

/-- Writes a term. -/
def toJson (term : PodAffinityTerm) : Json :=
  .ofFieldsAnd [
    ("labelSelector", term.labelSelector.map LabelSelector.toJson),
    ("topologyKey", some (.string term.topologyKey))] term.unmanaged

end PodAffinityTerm

namespace PodAntiAffinity

/-- The member with the terms that hold at the time of scheduling. -/
def requiredMember : String := "requiredDuringSchedulingIgnoredDuringExecution"

/-- Reads the pods to be placed far from. -/
def ofJson? (json : Json) : Option PodAntiAffinity := do
  let members ← json.members?
  return {
    required := ← members.optional requiredMember (Json.listOf? PodAffinityTerm.ofJson?)
    unmanaged := members.without [requiredMember] }

/-- Writes the pods to be placed far from. -/
def toJson (affinity : PodAntiAffinity) : Json :=
  .ofFieldsAnd [(requiredMember, affinity.required.map (.list PodAffinityTerm.toJson))]
    affinity.unmanaged

end PodAntiAffinity

namespace Affinity

/-- Reads constraints. -/
def ofJson? (json : Json) : Option Affinity := do
  let members ← json.members?
  return {
    podAntiAffinity := ← members.optional "podAntiAffinity" PodAntiAffinity.ofJson?
    unmanaged := members.without ["podAntiAffinity"] }

/-- Writes constraints. -/
def toJson (affinity : Affinity) : Json :=
  .ofFieldsAnd [("podAntiAffinity", affinity.podAntiAffinity.map PodAntiAffinity.toJson)]
    affinity.unmanaged

end Affinity

namespace ConfigMapVolume

/-- Reads a config map volume. -/
def ofJson? (json : Json) : Option ConfigMapVolume := do
  let members ← json.members?
  return {
    name := ← members.orDefault "name" Json.string? ""
    unmanaged := members.without ["name"] }

/-- Writes a config map volume. -/
def toJson (volume : ConfigMapVolume) : Json :=
  .ofFieldsAnd [("name", some (.string volume.name))] volume.unmanaged

end ConfigMapVolume

namespace SecretVolume

/-- Reads a secret volume. -/
def ofJson? (json : Json) : Option SecretVolume := do
  let members ← json.members?
  return {
    secretName := ← members.optional "secretName" Json.string?
    unmanaged := members.without ["secretName"] }

/-- Writes a secret volume. -/
def toJson (volume : SecretVolume) : Json :=
  .ofFieldsAnd [("secretName", volume.secretName.map .string)] volume.unmanaged

end SecretVolume

namespace Volume

/-- Reads a volume. -/
def ofJson? (json : Json) : Option Volume := do
  let members ← json.members?
  return {
    name := ← members.orDefault "name" Json.string? ""
    configMap := ← members.optional "configMap" ConfigMapVolume.ofJson?
    secret := ← members.optional "secret" SecretVolume.ofJson?
    unmanaged := members.without ["name", "configMap", "secret"] }

/-- Writes a volume. -/
def toJson (volume : Volume) : Json :=
  .ofFieldsAnd [
    ("name", some (.string volume.name)),
    ("configMap", volume.configMap.map ConfigMapVolume.toJson),
    ("secret", volume.secret.map SecretVolume.toJson)] volume.unmanaged

end Volume

namespace PodSpec

/-- Reads what a pod runs. -/
def ofJson? (json : Json) : Option PodSpec := do
  let members ← json.members?
  return {
    affinity := ← members.optional "affinity" Affinity.ofJson?
    containers := ← members.orDefault "containers" (Json.listOf? Container.ofJson?) []
    serviceAccountName := ← members.optional "serviceAccountName" Json.string?
    volumes := ← members.optional "volumes" (Json.listOf? Volume.ofJson?)
    unmanaged := members.without ["affinity", "containers", "serviceAccountName", "volumes"] }

/-- Writes what a pod runs. -/
def toJson (spec : PodSpec) : Json :=
  .ofFieldsAnd [
    ("affinity", spec.affinity.map Affinity.toJson),
    ("containers", some (.list Container.toJson spec.containers)),
    ("serviceAccountName", spec.serviceAccountName.map .string),
    ("volumes", spec.volumes.map (.list Volume.toJson))] spec.unmanaged

end PodSpec

namespace PodTemplate

/-- Reads a template that has the form of its shape. -/
def ofClean? (json : Json) : Option PodTemplate := do
  let members ← json.members?
  return {
    metadata := ← members.optional "metadata" ObjectMeta.ofJson?
    spec := ← members.optional "spec" PodSpec.ofJson? }

/-- Reads a template. -/
def ofJson? (json : Json) : Option PodTemplate := (Schema.podTemplate.clean json).bind ofClean?

/-- Writes a template. -/
def toJson (template : PodTemplate) : Json :=
  .ofFields [
    ("metadata", template.metadata.map ObjectMeta.toJson),
    ("spec", template.spec.map PodSpec.toJson)]

end PodTemplate

namespace Pod

/-- The API type of pods. -/
def apiType : ApiType := ⟨"v1", "Pod", "pods"⟩

/-- Reads a pod. -/
def ofJson? (json : Json) : Option Pod := do
  let members ← apiType.clean? Schema.pod json
  return {
    metadata := ← members.orDefault "metadata" ObjectMeta.ofJson? {}
    spec := members.get? "spec"
    status := members.get? "status" }

/-- Writes a pod. -/
def toJson (pod : Pod) : Json :=
  .ofFields <| apiType.fields ++ [
    ("metadata", some pod.metadata.toJson), ("spec", pod.spec), ("status", pod.status)]

end Pod

end RouterOperator
