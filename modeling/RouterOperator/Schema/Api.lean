import RouterOperator.Schema.Metadata

/-!
# Shapes of what the API answers besides objects
-/

namespace RouterOperator.Schema

open Shape

/-- A notice about an object. -/
def event : Shape :=
  .record [
    ("action", text), ("deprecatedCount", int32), ("deprecatedFirstTimestamp", time),
    ("deprecatedLastTimestamp", time),
    ("deprecatedSource", fields [("component", text), ("host", text)]), ("eventTime", time),
    ("note", text), ("reason", text), ("regarding", objectReference), ("related", objectReference),
    ("reportingController", text), ("reportingInstance", text),
    ("series", .record [] [("count", int32), ("lastObservedTime", time)]), ("type", text)]
    [("metadata", objectMeta)]

/-- The metadata of a list of objects. -/
def listMeta : Shape :=
  fields [
    ("continue", text), ("remainingItemCount", int64), ("resourceVersion", text),
    ("selfLink", text)]

/-- A version of a group of types. -/
def groupVersion : Shape := .record [] [("groupVersion", text), ("version", text)]

/-- A group of types that the API serves. -/
def apiGroup : Shape :=
  .record [
    ("preferredVersion", groupVersion),
    ("serverAddressByClientCIDRs",
      listOf <| .record [] [("clientCIDR", text), ("serverAddress", text)])]
    [("name", text), ("versions", listOf groupVersion)]

end RouterOperator.Schema
