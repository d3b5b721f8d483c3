import RouterOperator.Kubernetes.Kinded

/-!
# Routes

The part of the route API that listeners are exposed with. The host of a route may be left to the
cluster to choose.
-/

namespace RouterOperator

/-- How a route handles TLS. -/
structure RouteTls where
  termination : String
  insecureEdgeTerminationPolicy : Option String := none
deriving DecidableEq

/-- The object a route leads to. -/
structure RouteTarget where
  kind : String
  name : String
deriving DecidableEq

/-- Where a route leads from and to; `port` is the name of the target's port. -/
structure RouteSpec where
  host : Option String := none
  port : Option String := none
  tls : Option RouteTls := none
  target : RouteTarget
deriving DecidableEq

/-- A route. -/
structure Route where
  metadata : ObjectMeta
  spec : RouteSpec

namespace RouteTls

/-- Reads how a route handles TLS. -/
def ofJson? (json : Json) : Option RouteTls := do
  let members ← json.record? ["termination", "insecureEdgeTerminationPolicy"] 2
  return {
    termination := ← members.required "termination" Json.string?
    insecureEdgeTerminationPolicy :=
      ← members.optional "insecureEdgeTerminationPolicy" Json.string? }

/-- Writes how a route handles TLS. -/
def toJson (tls : RouteTls) : Json :=
  .ofFields [
    ("termination", some (.string tls.termination)),
    ("insecureEdgeTerminationPolicy", tls.insecureEdgeTerminationPolicy.map .string)]

end RouteTls

namespace RouteTarget

/-- Reads a target. -/
def ofJson? (json : Json) : Option RouteTarget := do
  let members ← json.record? ["kind", "name"] 2
  return {
    kind := ← members.required "kind" Json.string?
    name := ← members.required "name" Json.string? }

/-- Writes a target. -/
def toJson (target : RouteTarget) : Json :=
  .ofFields [("kind", some (.string target.kind)), ("name", some (.string target.name))]

end RouteTarget

namespace RouteSpec

/-- Reads the name of the target's port. -/
def port? (json : Json) : Option String := do
  let members ← json.record? ["targetPort"] 1
  members.required "targetPort" Json.string?

/-- Reads where a route leads from and to. -/
def ofJson? (json : Json) : Option RouteSpec := do
  let members ← json.record? ["host", "port", "tls", "to"] 4
  return {
    host := ← members.optional "host" Json.string?
    port := ← members.optional "port" port?
    tls := ← members.optional "tls" RouteTls.ofJson?
    target := ← members.required "to" RouteTarget.ofJson? }

/-- Writes where a route leads from and to. -/
def toJson (spec : RouteSpec) : Json :=
  .ofFields [
    ("host", spec.host.map .string),
    ("port", spec.port.map fun port => .ofFields [("targetPort", some (.string port))]),
    ("tls", spec.tls.map RouteTls.toJson),
    ("to", some spec.target.toJson)]

end RouteSpec

namespace Route

/-- The API type of routes. -/
def apiType : ApiType := ⟨"route.openshift.io/v1", "Route", "routes"⟩

/-- Reads a route. -/
def ofJson? (json : Json) : Option Route := do
  let members ← json.record? ["metadata", "spec"] 2
  return {
    metadata := ← members.required "metadata" ObjectMeta.ofJson?
    spec := ← members.required "spec" RouteSpec.ofJson? }

/-- Writes a route. -/
def toJson (route : Route) : Json :=
  .ofFields <| apiType.fields ++ [
    ("metadata", some route.metadata.toJson), ("spec", some route.spec.toJson)]

end Route

end RouterOperator
