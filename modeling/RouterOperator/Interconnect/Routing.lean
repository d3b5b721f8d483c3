import RouterOperator.Json.Record

/-!
# Addresses and links

How a router treats addresses, and which links it makes on its own or routes to others. An address
or link route applies to the addresses that start with a prefix or match a pattern.
-/

namespace RouterOperator

/-- The treatment of the addresses with a common prefix or pattern. -/
structure Address where
  addressPrefix : Option String := none
  pattern : Option String := none
  distribution : Option String := none
  waypoint : Bool := false
  ingressPhase : Option Int32 := none
  egressPhase : Option Int32 := none
  priority : Option Int32 := none
deriving DecidableEq, Inhabited

namespace Address

/-- Reads an address. -/
def ofJson? (json : Json) : Option Address := do
  let members ← json.record?
    ["prefix", "pattern", "distribution", "waypoint", "ingressPhase", "egressPhase", "priority"] 7
  return {
    addressPrefix := ← members.optional "prefix" Json.string?
    pattern := ← members.optional "pattern" Json.string?
    distribution := ← members.optional "distribution" Json.string?
    waypoint := ← members.defaulted "waypoint" Json.bool? false
    ingressPhase := ← members.optional "ingressPhase" Json.int32?
    egressPhase := ← members.optional "egressPhase" Json.int32?
    priority := ← members.optional "priority" Json.int32? }

/-- Writes an address. -/
def toJson (address : Address) : Json :=
  .ofFields [
    ("prefix", address.addressPrefix.map .string),
    ("pattern", address.pattern.map .string),
    ("distribution", address.distribution.map .string),
    ("waypoint", Json.ifTrue address.waypoint),
    ("ingressPhase", address.ingressPhase.map .int32),
    ("egressPhase", address.egressPhase.map .int32),
    ("priority", address.priority.map .int32)]

end Address

/-- A link that a router makes for an address on its own. -/
structure AutoLink where
  address : String := ""
  direction : String := ""
  containerId : Option String := none
  connection : Option String := none
  externalPrefix : Option String := none
  phase : Option Int32 := none
deriving DecidableEq, Inhabited

namespace AutoLink

/-- Reads an auto link. -/
def ofJson? (json : Json) : Option AutoLink := do
  let members ← json.record?
    ["address", "direction", "containerId", "connection", "externalPrefix", "phase"] 6
  return {
    address := ← members.defaulted "address" Json.string? ""
    direction := ← members.defaulted "direction" Json.string? ""
    containerId := ← members.optional "containerId" Json.string?
    connection := ← members.optional "connection" Json.string?
    externalPrefix := ← members.optional "externalPrefix" Json.string?
    phase := ← members.optional "phase" Json.int32? }

/-- Writes an auto link. -/
def toJson (link : AutoLink) : Json :=
  .ofFields [
    ("address", some (.string link.address)),
    ("direction", some (.string link.direction)),
    ("containerId", link.containerId.map .string),
    ("connection", link.connection.map .string),
    ("externalPrefix", link.externalPrefix.map .string),
    ("phase", link.phase.map .int32)]

end AutoLink

/-- The destination of the links that are attached to addresses with a common prefix or pattern. -/
structure LinkRoute where
  addressPrefix : Option String := none
  pattern : Option String := none
  direction : Option String := none
  containerId : Option String := none
  connection : Option String := none
  addExternalPrefix : Option String := none
  removeExternalPrefix : Option String := none
deriving DecidableEq, Inhabited

namespace LinkRoute

/-- Reads a link route. -/
def ofJson? (json : Json) : Option LinkRoute := do
  let members ← json.record?
    ["prefix", "pattern", "direction", "containerId", "connection", "addExternalPrefix",
      "removeExternalPrefix"] 7
  return {
    addressPrefix := ← members.optional "prefix" Json.string?
    pattern := ← members.optional "pattern" Json.string?
    direction := ← members.optional "direction" Json.string?
    containerId := ← members.optional "containerId" Json.string?
    connection := ← members.optional "connection" Json.string?
    addExternalPrefix := ← members.optional "addExternalPrefix" Json.string?
    removeExternalPrefix := ← members.optional "removeExternalPrefix" Json.string? }

/-- Writes a link route. -/
def toJson (route : LinkRoute) : Json :=
  .ofFields [
    ("prefix", route.addressPrefix.map .string),
    ("pattern", route.pattern.map .string),
    ("direction", route.direction.map .string),
    ("containerId", route.containerId.map .string),
    ("connection", route.connection.map .string),
    ("addExternalPrefix", route.addExternalPrefix.map .string),
    ("removeExternalPrefix", route.removeExternalPrefix.map .string)]

end LinkRoute

end RouterOperator
