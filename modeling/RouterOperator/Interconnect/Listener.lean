import RouterOperator.Json.Record
import RouterOperator.Text.Given

/-!
# Listeners and connectors

The ports a router accepts connections on and the peers it connects to. Container ports, service
ports and exposures of a listener are joined by its target name.
-/

namespace RouterOperator

/-- The name of a port: the given one, or one made from its number. -/
def portName (name : Option String) (port : Int32) : String :=
  (Text.given name).getD s!"port-{port.toInt}"

/-- A port that a router accepts connections on. -/
structure Listener where
  name : Option String := none
  host : Option String := none
  port : Int32 := 0
  routeContainer : Bool := false
  http : Bool := false
  cost : Option Int32 := none
  sslProfile : Option String := none
  expose : Bool := false
  authenticatePeer : Bool := false
  saslMechanisms : Option String := none
deriving DecidableEq, Inhabited

namespace Listener

/-- A plain listener on a port. -/
def onPort (port : Int32) : Listener := { port }

/-- A listener on a port that serves TLS with a profile. -/
def withProfile (port : Int32) (profile : String) : Listener :=
  { port, sslProfile := some profile }

/-- The name that container ports, service ports and exposures share. -/
def targetName (listener : Listener) : String := portName listener.name listener.port

/-- The TLS profile, if one is named. -/
def profile (listener : Listener) : Option String := Text.given listener.sslProfile

/-- Reads a listener. -/
def ofJson? (json : Json) : Option Listener := do
  let members ← json.record?
    ["name", "host", "port", "routeContainer", "http", "cost", "sslProfile", "expose",
      "authenticatePeer", "saslMechanisms"] 10
  return {
    name := ← members.optional "name" Json.string?
    host := ← members.optional "host" Json.string?
    port := ← members.defaulted "port" Json.int32? 0
    routeContainer := ← members.defaulted "routeContainer" Json.bool? false
    http := ← members.defaulted "http" Json.bool? false
    cost := ← members.optional "cost" Json.int32?
    sslProfile := ← members.optional "sslProfile" Json.string?
    expose := ← members.defaulted "expose" Json.bool? false
    authenticatePeer := ← members.defaulted "authenticatePeer" Json.bool? false
    saslMechanisms := ← members.optional "saslMechanisms" Json.string? }

/-- Writes a listener. -/
def toJson (listener : Listener) : Json :=
  .ofFields [
    ("name", listener.name.map .string),
    ("host", listener.host.map .string),
    ("port", some (.int32 listener.port)),
    ("routeContainer", Json.ifTrue listener.routeContainer),
    ("http", Json.ifTrue listener.http),
    ("cost", listener.cost.map .int32),
    ("sslProfile", listener.sslProfile.map .string),
    ("expose", Json.ifTrue listener.expose),
    ("authenticatePeer", Json.ifTrue listener.authenticatePeer),
    ("saslMechanisms", listener.saslMechanisms.map .string)]

end Listener

/-- A peer that a router connects to. -/
structure Connector where
  name : Option String := none
  host : String := ""
  port : Int32 := 0
  routeContainer : Bool := false
  cost : Option Int32 := none
  sslProfile : Option String := none
  verifyHostname : Option Bool := none
deriving DecidableEq, Inhabited

namespace Connector

/-- The name of a connector's port. -/
def targetName (connector : Connector) : String := portName connector.name connector.port

/-- Reads a connector. -/
def ofJson? (json : Json) : Option Connector := do
  let members ← json.record?
    ["name", "host", "port", "routeContainer", "cost", "sslProfile", "verifyHostname"] 7
  return {
    name := ← members.optional "name" Json.string?
    host := ← members.defaulted "host" Json.string? ""
    port := ← members.defaulted "port" Json.int32? 0
    routeContainer := ← members.defaulted "routeContainer" Json.bool? false
    cost := ← members.optional "cost" Json.int32?
    sslProfile := ← members.optional "sslProfile" Json.string?
    verifyHostname := ← members.optional "verifyHostname" Json.bool? }

/-- Writes a connector. -/
def toJson (connector : Connector) : Json :=
  .ofFields [
    ("name", connector.name.map .string),
    ("host", some (.string connector.host)),
    ("port", some (.int32 connector.port)),
    ("routeContainer", Json.ifTrue connector.routeContainer),
    ("cost", connector.cost.map .int32),
    ("sslProfile", connector.sslProfile.map .string),
    ("verifyHostname", connector.verifyHostname.map .bool)]

end Connector

end RouterOperator
