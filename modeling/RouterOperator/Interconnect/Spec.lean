import RouterOperator.Interconnect.Plan
import RouterOperator.Interconnect.Listener
import RouterOperator.Interconnect.SslProfile
import RouterOperator.Interconnect.Routing

/-!
# Cluster specifications

What a user asks of a cluster of message routers. Lists keep the order they are given in, because
the order of the rendered configuration follows it; an empty list is not written.
-/

namespace RouterOperator

/-- The specification of a cluster. -/
structure InterconnectSpec where
  deploymentPlan : DeploymentPlan := {}
  listeners : List Listener := []
  interRouterListeners : List Listener := []
  edgeListeners : List Listener := []
  sslProfiles : List SslProfile := []
  addresses : List Address := []
  autoLinks : List AutoLink := []
  linkRoutes : List LinkRoute := []
  connectors : List Connector := []
  interRouterConnectors : List Connector := []
  edgeConnectors : List Connector := []
deriving DecidableEq, Inhabited

namespace InterconnectSpec

/-- All listeners: those for clients, then those for other routers, then those for edge routers. -/
def allListeners (spec : InterconnectSpec) : List Listener :=
  spec.listeners ++ spec.interRouterListeners ++ spec.edgeListeners

/-- The listeners to be reached from outside the cluster network. -/
def exposedListeners (spec : InterconnectSpec) : List Listener :=
  spec.allListeners.filter (·.expose)

/-- All connectors: ordinary ones, then those to other routers, then those to interior routers. -/
def allConnectors (spec : InterconnectSpec) : List Connector :=
  spec.connectors ++ spec.interRouterConnectors ++ spec.edgeConnectors

/-- Reads a specification. -/
def ofJson? (json : Json) : Option InterconnectSpec := do
  let members ← json.record?
    ["deploymentPlan", "listeners", "interRouterListeners", "edgeListeners", "sslProfiles",
      "addresses", "autoLinks", "linkRoutes", "connectors", "interRouterConnectors",
      "edgeConnectors"] 0
  return {
    deploymentPlan := ← members.defaulted "deploymentPlan" DeploymentPlan.ofJson? {}
    listeners := ← members.defaulted "listeners" (Json.listOf? Listener.ofJson?) []
    interRouterListeners :=
      ← members.defaulted "interRouterListeners" (Json.listOf? Listener.ofJson?) []
    edgeListeners := ← members.defaulted "edgeListeners" (Json.listOf? Listener.ofJson?) []
    sslProfiles := ← members.defaulted "sslProfiles" (Json.listOf? SslProfile.ofJson?) []
    addresses := ← members.defaulted "addresses" (Json.listOf? Address.ofJson?) []
    autoLinks := ← members.defaulted "autoLinks" (Json.listOf? AutoLink.ofJson?) []
    linkRoutes := ← members.defaulted "linkRoutes" (Json.listOf? LinkRoute.ofJson?) []
    connectors := ← members.defaulted "connectors" (Json.listOf? Connector.ofJson?) []
    interRouterConnectors :=
      ← members.defaulted "interRouterConnectors" (Json.listOf? Connector.ofJson?) []
    edgeConnectors := ← members.defaulted "edgeConnectors" (Json.listOf? Connector.ofJson?) [] }

/-- Writes a specification. -/
def toJson (spec : InterconnectSpec) : Json :=
  .ofFields [
    ("deploymentPlan", some spec.deploymentPlan.toJson),
    ("listeners", Json.ifNonempty Listener.toJson spec.listeners),
    ("interRouterListeners", Json.ifNonempty Listener.toJson spec.interRouterListeners),
    ("edgeListeners", Json.ifNonempty Listener.toJson spec.edgeListeners),
    ("sslProfiles", Json.ifNonempty SslProfile.toJson spec.sslProfiles),
    ("addresses", Json.ifNonempty Address.toJson spec.addresses),
    ("autoLinks", Json.ifNonempty AutoLink.toJson spec.autoLinks),
    ("linkRoutes", Json.ifNonempty LinkRoute.toJson spec.linkRoutes),
    ("connectors", Json.ifNonempty Connector.toJson spec.connectors),
    ("interRouterConnectors", Json.ifNonempty Connector.toJson spec.interRouterConnectors),
    ("edgeConnectors", Json.ifNonempty Connector.toJson spec.edgeConnectors)]

end InterconnectSpec

end RouterOperator
