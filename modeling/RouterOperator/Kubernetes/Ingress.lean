import RouterOperator.Kubernetes.Kinded

/-!
# Ingresses

Rules that pass requests from outside to services by host and path.
-/

namespace RouterOperator

/-- A port of a service, by name or by number. -/
structure ServiceBackendPort where
  name : Option String := none
  number : Option Int32 := none
deriving DecidableEq

/-- A service that requests are passed to. -/
structure ServiceBackend where
  name : String := ""
  port : Option ServiceBackendPort := none
deriving DecidableEq

/-- An object other than a service that requests are passed to. -/
structure ResourceBackend where
  apiGroup : Option String := none
  kind : String := ""
  name : String := ""
deriving DecidableEq

/-- A place that requests are passed to. -/
structure IngressBackend where
  resource : Option ResourceBackend := none
  service : Option ServiceBackend := none
deriving DecidableEq

/-- The place for the requests to a path. -/
structure IngressPath where
  backend : IngressBackend := {}
  path : Option String := none
  pathType : String := ""
deriving DecidableEq

/-- The paths of a host; `paths` is unset when the rule passes no requests. -/
structure IngressRule where
  host : Option String := none
  paths : Option (List IngressPath) := none
deriving DecidableEq

/-- The rules of an ingress. -/
structure IngressSpec where
  rules : Option (List IngressRule) := none
  unmanaged : Dict Json := .empty

/-- Rules for requests from outside. -/
structure Ingress where
  metadata : ObjectMeta := {}
  spec : Option IngressSpec := none
  status : Option Json := none

namespace ServiceBackendPort

/-- Reads a port of a service. -/
def ofJson? (json : Json) : Option ServiceBackendPort := do
  let members ← json.members?
  return {
    name := ← members.optional "name" Json.string?
    number := ← members.optional "number" Json.int32? }

/-- Writes a port of a service. -/
def toJson (port : ServiceBackendPort) : Json :=
  .ofFields [("name", port.name.map .string), ("number", port.number.map .int32)]

end ServiceBackendPort

namespace ServiceBackend

/-- Reads a service. -/
def ofJson? (json : Json) : Option ServiceBackend := do
  let members ← json.members?
  return {
    name := ← members.orDefault "name" Json.string? ""
    port := ← members.optional "port" ServiceBackendPort.ofJson? }

/-- Writes a service. -/
def toJson (service : ServiceBackend) : Json :=
  .ofFields [
    ("name", some (.string service.name)),
    ("port", service.port.map ServiceBackendPort.toJson)]

end ServiceBackend

namespace ResourceBackend

/-- Reads an object. -/
def ofJson? (json : Json) : Option ResourceBackend := do
  let members ← json.members?
  return {
    apiGroup := ← members.optional "apiGroup" Json.string?
    kind := ← members.orDefault "kind" Json.string? ""
    name := ← members.orDefault "name" Json.string? "" }

/-- Writes an object. -/
def toJson (resource : ResourceBackend) : Json :=
  .ofFields [
    ("apiGroup", resource.apiGroup.map .string),
    ("kind", some (.string resource.kind)),
    ("name", some (.string resource.name))]

end ResourceBackend

namespace IngressBackend

/-- Reads a place. -/
def ofJson? (json : Json) : Option IngressBackend := do
  let members ← json.members?
  return {
    resource := ← members.optional "resource" ResourceBackend.ofJson?
    service := ← members.optional "service" ServiceBackend.ofJson? }

/-- Writes a place. -/
def toJson (backend : IngressBackend) : Json :=
  .ofFields [
    ("resource", backend.resource.map ResourceBackend.toJson),
    ("service", backend.service.map ServiceBackend.toJson)]

end IngressBackend

namespace IngressPath

/-- Reads a path. -/
def ofJson? (json : Json) : Option IngressPath := do
  let members ← json.members?
  return {
    backend := ← members.orDefault "backend" IngressBackend.ofJson? {}
    path := ← members.optional "path" Json.string?
    pathType := ← members.orDefault "pathType" Json.string? "" }

/-- Writes a path. -/
def toJson (path : IngressPath) : Json :=
  .ofFields [
    ("backend", some path.backend.toJson),
    ("path", path.path.map .string),
    ("pathType", some (.string path.pathType))]

end IngressPath

namespace IngressRule

/-- Reads the paths of a host. -/
def paths? (json : Json) : Option (List IngressPath) := do
  let members ← json.members?
  members.orDefault "paths" (Json.listOf? IngressPath.ofJson?) []

/-- Reads a rule. -/
def ofJson? (json : Json) : Option IngressRule := do
  let members ← json.members?
  return {
    host := ← members.optional "host" Json.string?
    paths := ← members.optional "http" paths? }

/-- Writes a rule. -/
def toJson (rule : IngressRule) : Json :=
  .ofFields [
    ("host", rule.host.map .string),
    ("http", rule.paths.map fun paths =>
      .ofFields [("paths", some (.list IngressPath.toJson paths))])]

end IngressRule

namespace IngressSpec

/-- Reads the rules of an ingress. -/
def ofJson? (json : Json) : Option IngressSpec := do
  let members ← json.members?
  return {
    rules := ← members.optional "rules" (Json.listOf? IngressRule.ofJson?)
    unmanaged := members.without ["rules"] }

/-- Writes the rules of an ingress. -/
def toJson (spec : IngressSpec) : Json :=
  .ofFieldsAnd [("rules", spec.rules.map (.list IngressRule.toJson))] spec.unmanaged

end IngressSpec

namespace Ingress

/-- The API type of ingresses. -/
def apiType : ApiType := ⟨"networking.k8s.io/v1", "Ingress", "ingresses"⟩

/-- Reads an ingress. -/
def ofJson? (json : Json) : Option Ingress := do
  let members ← apiType.clean? Schema.ingress json
  return {
    metadata := ← members.orDefault "metadata" ObjectMeta.ofJson? {}
    spec := ← members.optional "spec" IngressSpec.ofJson?
    status := members.get? "status" }

/-- Writes an ingress. -/
def toJson (ingress : Ingress) : Json :=
  .ofFields <| apiType.fields ++ [
    ("metadata", some ingress.metadata.toJson),
    ("spec", ingress.spec.map IngressSpec.toJson),
    ("status", ingress.status)]

end Ingress

end RouterOperator
