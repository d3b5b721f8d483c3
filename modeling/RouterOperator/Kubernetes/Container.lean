import RouterOperator.Kubernetes.Kinded
import RouterOperator.Kubernetes.Resources

/-!
# Containers

A container keeps the members that this library sets and compares in fields of their own, and all
others under `unmanaged`. Environment variables, ports and mounts are compared as a whole, so they
have all their members as fields. The readers expect JSON in the form of the container's shape.
-/

namespace RouterOperator

/-- A port, given by its number or by its name. -/
inductive PortRef where
  | number (port : Int32)
  | name (name : String)
deriving DecidableEq

namespace PortRef

/-- Reads a port. -/
def ofJson? (json : Json) : Option PortRef :=
  (json.string?.map .name) <|> (json.int32?.map .number)

/-- Writes a port. -/
def toJson : PortRef → Json
  | .number port => Json.int32 port
  | .name text => Json.string text

end PortRef

/-- A key of a config map or of a secret. -/
structure KeySelector where
  key : String
  name : String
  isOptional : Option Bool := none
deriving DecidableEq

/-- A field of the pod. -/
structure FieldSelector where
  apiVersion : Option String := none
  fieldPath : String
deriving DecidableEq

/-- A resource of a container. -/
structure ResourceSelector where
  containerName : Option String := none
  divisor : Option String := none
  resource : String
deriving DecidableEq

/-- Where the value of an environment variable comes from. -/
structure EnvVarSource where
  configMapKeyRef : Option KeySelector := none
  fieldRef : Option FieldSelector := none
  resourceFieldRef : Option ResourceSelector := none
  secretKeyRef : Option KeySelector := none
deriving DecidableEq

/-- An environment variable, with a value or a source of one. -/
structure EnvVar where
  name : String
  value : Option String := none
  valueFrom : Option EnvVarSource := none
deriving DecidableEq

/-- A port that a container listens on. -/
structure ContainerPort where
  containerPort : Int32
  hostIP : Option String := none
  hostPort : Option Int32 := none
  name : Option String := none
  protocol : Option String := none
deriving DecidableEq

/-- A volume mounted in a container. -/
structure VolumeMount where
  mountPath : String
  mountPropagation : Option String := none
  name : String
  readOnly : Option Bool := none
  recursiveReadOnly : Option String := none
  subPath : Option String := none
  subPathExpr : Option String := none
deriving DecidableEq

/-- A request whose answer tells whether a container is alive. -/
structure HttpGet where
  port : PortRef
  unmanaged : Dict Json := .empty

/-- A check on a container. -/
structure Probe where
  httpGet : Option HttpGet := none
  initialDelaySeconds : Option Int32 := none
  unmanaged : Dict Json := .empty

/-- A container. -/
structure Container where
  name : String
  image : Option String := none
  env : Option (List EnvVar) := none
  livenessProbe : Option Probe := none
  ports : Option (List ContainerPort) := none
  resources : Option ResourceRequirements := none
  volumeMounts : Option (List VolumeMount) := none
  unmanaged : Dict Json := .empty

namespace KeySelector

/-- Reads a key. -/
def ofJson? (json : Json) : Option KeySelector := do
  let members ← json.members?
  return {
    key := ← members.orDefault "key" Json.string? ""
    name := ← members.orDefault "name" Json.string? ""
    isOptional := ← members.optional "optional" Json.bool? }

/-- Writes a key. -/
def toJson (selector : KeySelector) : Json :=
  .ofFields [
    ("key", some (.string selector.key)),
    ("name", some (.string selector.name)),
    ("optional", selector.isOptional.map .bool)]

end KeySelector

namespace FieldSelector

/-- Reads a field of the pod. -/
def ofJson? (json : Json) : Option FieldSelector := do
  let members ← json.members?
  return {
    apiVersion := ← members.optional "apiVersion" Json.string?
    fieldPath := ← members.orDefault "fieldPath" Json.string? "" }

/-- Writes a field of the pod. -/
def toJson (selector : FieldSelector) : Json :=
  .ofFields [
    ("apiVersion", selector.apiVersion.map .string),
    ("fieldPath", some (.string selector.fieldPath))]

end FieldSelector

namespace ResourceSelector

/-- Reads a resource of a container. -/
def ofJson? (json : Json) : Option ResourceSelector := do
  let members ← json.members?
  return {
    containerName := ← members.optional "containerName" Json.string?
    divisor := ← members.optional "divisor" Json.string?
    resource := ← members.orDefault "resource" Json.string? "" }

/-- Writes a resource of a container. -/
def toJson (selector : ResourceSelector) : Json :=
  .ofFields [
    ("containerName", selector.containerName.map .string),
    ("divisor", selector.divisor.map .string),
    ("resource", some (.string selector.resource))]

end ResourceSelector

namespace EnvVarSource

/-- Reads a source. -/
def ofJson? (json : Json) : Option EnvVarSource := do
  let members ← json.members?
  return {
    configMapKeyRef := ← members.optional "configMapKeyRef" KeySelector.ofJson?
    fieldRef := ← members.optional "fieldRef" FieldSelector.ofJson?
    resourceFieldRef := ← members.optional "resourceFieldRef" ResourceSelector.ofJson?
    secretKeyRef := ← members.optional "secretKeyRef" KeySelector.ofJson? }

/-- Writes a source. -/
def toJson (source : EnvVarSource) : Json :=
  .ofFields [
    ("configMapKeyRef", source.configMapKeyRef.map KeySelector.toJson),
    ("fieldRef", source.fieldRef.map FieldSelector.toJson),
    ("resourceFieldRef", source.resourceFieldRef.map ResourceSelector.toJson),
    ("secretKeyRef", source.secretKeyRef.map KeySelector.toJson)]

end EnvVarSource

namespace EnvVar

/-- Reads an environment variable. -/
def ofJson? (json : Json) : Option EnvVar := do
  let members ← json.members?
  return {
    name := ← members.orDefault "name" Json.string? ""
    value := ← members.optional "value" Json.string?
    valueFrom := ← members.optional "valueFrom" EnvVarSource.ofJson? }

/-- Writes an environment variable. -/
def toJson (entry : EnvVar) : Json :=
  .ofFields [
    ("name", some (.string entry.name)),
    ("value", entry.value.map .string),
    ("valueFrom", entry.valueFrom.map EnvVarSource.toJson)]

end EnvVar

namespace ContainerPort

/-- Reads a container port. -/
def ofJson? (json : Json) : Option ContainerPort := do
  let members ← json.members?
  return {
    containerPort := ← members.orDefault "containerPort" Json.int32? 0
    hostIP := ← members.optional "hostIP" Json.string?
    hostPort := ← members.optional "hostPort" Json.int32?
    name := ← members.optional "name" Json.string?
    protocol := ← members.optional "protocol" Json.string? }

/-- Writes a container port. -/
def toJson (port : ContainerPort) : Json :=
  .ofFields [
    ("containerPort", some (.int32 port.containerPort)),
    ("hostIP", port.hostIP.map .string),
    ("hostPort", port.hostPort.map .int32),
    ("name", port.name.map .string),
    ("protocol", port.protocol.map .string)]

end ContainerPort

namespace VolumeMount

/-- Reads a mount. -/
def ofJson? (json : Json) : Option VolumeMount := do
  let members ← json.members?
  return {
    mountPath := ← members.orDefault "mountPath" Json.string? ""
    mountPropagation := ← members.optional "mountPropagation" Json.string?
    name := ← members.orDefault "name" Json.string? ""
    readOnly := ← members.optional "readOnly" Json.bool?
    recursiveReadOnly := ← members.optional "recursiveReadOnly" Json.string?
    subPath := ← members.optional "subPath" Json.string?
    subPathExpr := ← members.optional "subPathExpr" Json.string? }

/-- Writes a mount. -/
def toJson (mount : VolumeMount) : Json :=
  .ofFields [
    ("mountPath", some (.string mount.mountPath)),
    ("mountPropagation", mount.mountPropagation.map .string),
    ("name", some (.string mount.name)),
    ("readOnly", mount.readOnly.map .bool),
    ("recursiveReadOnly", mount.recursiveReadOnly.map .string),
    ("subPath", mount.subPath.map .string),
    ("subPathExpr", mount.subPathExpr.map .string)]

end VolumeMount

namespace HttpGet

/-- Reads a request. -/
def ofJson? (json : Json) : Option HttpGet := do
  let members ← json.members?
  return {
    port := ← members.orDefault "port" PortRef.ofJson? (.number 0)
    unmanaged := members.without ["port"] }

/-- Writes a request. -/
def toJson (request : HttpGet) : Json :=
  .ofFieldsAnd [("port", some request.port.toJson)] request.unmanaged

end HttpGet

namespace Probe

/-- Reads a check. -/
def ofJson? (json : Json) : Option Probe := do
  let members ← json.members?
  return {
    httpGet := ← members.optional "httpGet" HttpGet.ofJson?
    initialDelaySeconds := ← members.optional "initialDelaySeconds" Json.int32?
    unmanaged := members.without ["httpGet", "initialDelaySeconds"] }

/-- Writes a check. -/
def toJson (probe : Probe) : Json :=
  .ofFieldsAnd [
    ("httpGet", probe.httpGet.map HttpGet.toJson),
    ("initialDelaySeconds", probe.initialDelaySeconds.map .int32)] probe.unmanaged

end Probe

namespace Container

/-- Reads a container. -/
def ofJson? (json : Json) : Option Container := do
  let members ← json.members?
  return {
    name := ← members.orDefault "name" Json.string? ""
    image := ← members.optional "image" Json.string?
    env := ← members.optional "env" (Json.listOf? EnvVar.ofJson?)
    livenessProbe := ← members.optional "livenessProbe" Probe.ofJson?
    ports := ← members.optional "ports" (Json.listOf? ContainerPort.ofJson?)
    resources := ← members.optional "resources" ResourceRequirements.ofJson?
    volumeMounts := ← members.optional "volumeMounts" (Json.listOf? VolumeMount.ofJson?)
    unmanaged := members.without
      ["name", "image", "env", "livenessProbe", "ports", "resources", "volumeMounts"] }

/-- Writes a container. -/
def toJson (container : Container) : Json :=
  .ofFieldsAnd [
    ("name", some (.string container.name)),
    ("image", container.image.map .string),
    ("env", container.env.map (.list EnvVar.toJson)),
    ("livenessProbe", container.livenessProbe.map Probe.toJson),
    ("ports", container.ports.map (.list ContainerPort.toJson)),
    ("resources", container.resources.map ResourceRequirements.toJson),
    ("volumeMounts", container.volumeMounts.map (.list VolumeMount.toJson))] container.unmanaged

end Container

end RouterOperator
