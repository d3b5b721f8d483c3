import RouterOperator.Config.Stanza
import RouterOperator.Interconnect.Basic

/-!
# The configuration of a cluster

The stanzas of a specification. Values pass through as they are: nothing here checks the topology.
An empty text and the port 0 count as unset and are not written; an optional number is written
whenever it is set, also when it is 0; a truth value is written only when it is true.
-/

namespace RouterOperator

namespace Stanza

/-- An attribute of the stanza being described, if it is written at all. -/
abbrev Attribute := Option (String × String)

/-- A text, unless it is empty. -/
def textAttribute (name : String) (value : Option String) : Attribute :=
  (Text.given value).map (name, ·)

/-- A port, unless it is 0. -/
def portAttribute (name : String) (port : Int32) : Attribute :=
  if port = 0 then none else some (name, toString port.toInt)

/-- A number, if it is set. -/
def numberAttribute (name : String) (value : Option Int32) : Attribute :=
  value.map fun number => (name, toString number.toInt)

/-- A truth value, if it is true. -/
def flagAttribute (name : String) (value : Bool) : Attribute :=
  if value then some (name, "true") else none

/-- Host names are verified unless that is switched off. -/
def verifyAttribute (value : Option Bool) : Attribute :=
  if value = some false then some ("verifyHostname", "false") else none

/-- The role of a client connection. -/
def clientRole (routeContainer : Bool) : String :=
  if routeContainer then "route-container" else "normal"

/-- A stanza of the attributes that are written. -/
def of (kind : String) (attributes : List Attribute) : Stanza :=
  { kind, attributes := attributes.filterMap id }

end Stanza

open Stanza

namespace Listener

/-- The address a listener binds to, every one unless it is set. -/
def bindHost (listener : Listener) : String := (Text.given listener.host).getD "0.0.0.0"

/-- The stanza of a listener for clients. -/
def stanza (listener : Listener) : Stanza :=
  .of "listener" [
    textAttribute "name" listener.name,
    some ("host", listener.bindHost),
    portAttribute "port" listener.port,
    some ("role", clientRole listener.routeContainer),
    flagAttribute "http" listener.http,
    flagAttribute "authenticatePeer" listener.authenticatePeer,
    textAttribute "saslMechanisms" listener.saslMechanisms,
    textAttribute "sslProfile" listener.sslProfile]

/-- The stanza of a listener for other routers. -/
def routerStanza (role : String) (listener : Listener) : Stanza :=
  .of "listener" [
    textAttribute "name" listener.name,
    some ("role", role),
    some ("host", listener.bindHost),
    portAttribute "port" listener.port,
    numberAttribute "cost" listener.cost,
    textAttribute "saslMechanisms" listener.saslMechanisms,
    flagAttribute "authenticatePeer" listener.authenticatePeer,
    textAttribute "sslProfile" listener.sslProfile]

end Listener

namespace SslProfile

/-- The file with the authority in its secret; next to a certificate it has a name of its own. -/
def caFile (profile : SslProfile) : String :=
  if profile.caSecret = profile.credentialsSecret then "ca.crt" else "tls.crt"

/-- The stanza of a TLS profile, with the paths of the files its secrets are mounted as. -/
def stanza (profile : SslProfile) : Stanza :=
  .of profileKind [
    some ("name", profile.name),
    profile.credentialsSecret.map fun secret =>
      ("certFile", certificatePath profile.name secret ++ "/tls.crt"),
    profile.credentialsSecret.map fun secret =>
      ("privateKeyFile", certificatePath profile.name secret ++ "/tls.key"),
    profile.caSecret.map fun secret =>
      ("caCertFile", certificatePath profile.name secret ++ "/" ++ profile.caFile),
    textAttribute "ciphers" profile.ciphers,
    textAttribute "protocols" profile.protocols]

end SslProfile

namespace Address

/-- The stanza of an address. -/
def stanza (address : Address) : Stanza :=
  .of "address" [
    textAttribute "prefix" address.addressPrefix,
    textAttribute "pattern" address.pattern,
    textAttribute "distribution" address.distribution,
    flagAttribute "waypoint" address.waypoint,
    numberAttribute "ingressPhase" address.ingressPhase,
    numberAttribute "egressPhase" address.egressPhase,
    numberAttribute "priority" address.priority]

end Address

namespace AutoLink

/-- The stanza of an auto link. -/
def stanza (link : AutoLink) : Stanza :=
  .of "autoLink" [
    textAttribute "addr" (some link.address),
    textAttribute "direction" (some link.direction),
    textAttribute "containerId" link.containerId,
    textAttribute "connection" link.connection,
    textAttribute "externalPrefix" link.externalPrefix,
    numberAttribute "phase" link.phase]

end AutoLink

namespace LinkRoute

/-- The stanza of a link route. -/
def stanza (route : LinkRoute) : Stanza :=
  .of "linkRoute" [
    textAttribute "prefix" route.addressPrefix,
    textAttribute "pattern" route.pattern,
    textAttribute "direction" route.direction,
    textAttribute "connection" route.connection,
    textAttribute "containerId" route.containerId,
    textAttribute "addExternalPrefix" route.addExternalPrefix,
    textAttribute "removeExternalPrefix" route.removeExternalPrefix]

end LinkRoute

namespace Connector

/-- The stanza of an ordinary connector. -/
def stanza (connector : Connector) : Stanza :=
  .of "connector" [
    textAttribute "name" connector.name,
    textAttribute "host" (some connector.host),
    portAttribute "port" connector.port,
    some ("role", clientRole connector.routeContainer),
    numberAttribute "cost" connector.cost,
    textAttribute "sslProfile" connector.sslProfile,
    verifyAttribute connector.verifyHostname]

/-- The stanza of a connector to another router. -/
def routerStanza (role : String) (connector : Connector) : Stanza :=
  .of "connector" [
    textAttribute "name" connector.name,
    some ("role", role),
    textAttribute "host" (some connector.host),
    portAttribute "port" connector.port,
    numberAttribute "cost" connector.cost,
    textAttribute "sslProfile" connector.sslProfile,
    verifyAttribute connector.verifyHostname]

end Connector

namespace InterconnectSpec

/-- The configuration of a specification. -/
def config (spec : InterconnectSpec) : RouterConfig where
  mode := spec.deploymentPlan.roleOrInterior.name
  sections := [
    spec.listeners.map Listener.stanza,
    spec.interRouterListeners.map (Listener.routerStanza "inter-router"),
    spec.edgeListeners.map (Listener.routerStanza "edge"),
    spec.sslProfiles.map SslProfile.stanza,
    spec.addresses.map Address.stanza,
    spec.autoLinks.map AutoLink.stanza,
    spec.linkRoutes.map LinkRoute.stanza,
    spec.connectors.map Connector.stanza,
    spec.interRouterConnectors.map (Connector.routerStanza "inter-router"),
    spec.edgeConnectors.map (Connector.routerStanza "edge")]

/-- The text of the configuration of a specification. -/
def render (spec : InterconnectSpec) : String := spec.config.text

end InterconnectSpec

end RouterOperator
