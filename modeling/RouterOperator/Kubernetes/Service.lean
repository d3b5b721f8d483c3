import RouterOperator.Kubernetes.Container

/-!
# Services
-/

namespace RouterOperator

/-- A port of a service and the port of the pods it leads to. -/
structure ServicePort where
  appProtocol : Option String := none
  name : Option String := none
  nodePort : Option Int32 := none
  port : Int32 := 0
  protocol : Option String := none
  targetPort : Option PortRef := none
deriving DecidableEq

/-- The pods of a service and its ports. -/
structure ServiceSpec where
  ports : Option (List ServicePort) := none
  selector : Option (Dict String) := none
  unmanaged : Dict Json := .empty

/-- A stable address for a set of pods. -/
structure Service where
  metadata : ObjectMeta := {}
  spec : Option ServiceSpec := none
  status : Option Json := none

namespace ServicePort

/-- Reads a service port. -/
def ofJson? (json : Json) : Option ServicePort := do
  let members ← json.members?
  return {
    appProtocol := ← members.optional "appProtocol" Json.string?
    name := ← members.optional "name" Json.string?
    nodePort := ← members.optional "nodePort" Json.int32?
    port := ← members.orDefault "port" Json.int32? 0
    protocol := ← members.optional "protocol" Json.string?
    targetPort := ← members.optional "targetPort" PortRef.ofJson? }

/-- Writes a service port. -/
def toJson (port : ServicePort) : Json :=
  .ofFields [
    ("appProtocol", port.appProtocol.map .string),
    ("name", port.name.map .string),
    ("nodePort", port.nodePort.map .int32),
    ("port", some (.int32 port.port)),
    ("protocol", port.protocol.map .string),
    ("targetPort", port.targetPort.map PortRef.toJson)]

end ServicePort

namespace ServiceSpec

/-- Reads the pods and ports of a service. -/
def ofJson? (json : Json) : Option ServiceSpec := do
  let members ← json.members?
  return {
    ports := ← members.optional "ports" (Json.listOf? ServicePort.ofJson?)
    selector := ← members.optional "selector" Json.texts?
    unmanaged := members.without ["ports", "selector"] }

/-- Writes the pods and ports of a service. -/
def toJson (spec : ServiceSpec) : Json :=
  .ofFieldsAnd [
    ("ports", spec.ports.map (.list ServicePort.toJson)),
    ("selector", spec.selector.map .texts)] spec.unmanaged

end ServiceSpec

namespace Service

/-- The API type of services. -/
def apiType : ApiType := ⟨"v1", "Service", "services"⟩

/-- Reads a service. -/
def ofJson? (json : Json) : Option Service := do
  let members ← apiType.clean? Schema.service json
  return {
    metadata := ← members.orDefault "metadata" ObjectMeta.ofJson? {}
    spec := ← members.optional "spec" ServiceSpec.ofJson?
    status := members.get? "status" }

/-- Writes a service. -/
def toJson (service : Service) : Json :=
  .ofFields <| apiType.fields ++ [
    ("metadata", some service.metadata.toJson),
    ("spec", service.spec.map ServiceSpec.toJson),
    ("status", service.status)]

end Service

end RouterOperator
