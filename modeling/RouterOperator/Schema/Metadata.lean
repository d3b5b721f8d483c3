import RouterOperator.Schema.Shape

/-!
# Shapes of metadata, references and conditions
-/

namespace RouterOperator.Schema

open Shape

/-- A reference to the owner of an object. -/
def ownerReference : Shape :=
  .record [("blockOwnerDeletion", flag), ("controller", flag)]
    [("apiVersion", text), ("kind", text), ("name", text), ("uid", text)]

/-- The metadata of an object. -/
def objectMeta : Shape :=
  fields [
    ("annotations", textDict), ("creationTimestamp", time),
    ("deletionGracePeriodSeconds", int64), ("deletionTimestamp", time), ("finalizers", texts),
    ("generateName", text), ("generation", int64), ("labels", textDict),
    ("managedFields", listOf <| fields [
      ("apiVersion", text), ("fieldsType", text), ("fieldsV1", anything), ("manager", text),
      ("operation", text), ("subresource", text), ("time", time)]),
    ("name", text), ("namespace", text), ("ownerReferences", listOf ownerReference),
    ("resourceVersion", text), ("selfLink", text), ("uid", text)]

/-- A selection of objects by their labels. -/
def labelSelector : Shape :=
  fields [
    ("matchExpressions", listOf <| .record [("values", texts)] [("key", text), ("operator", text)]),
    ("matchLabels", textDict)]

/-- A reference to an object of the same namespace, by name. -/
def localReference : Shape := .record [] [("name", text)]

/-- A reference to an object. -/
def objectReference : Shape :=
  fields [
    ("apiVersion", text), ("fieldPath", text), ("kind", text), ("name", text), ("namespace", text),
    ("resourceVersion", text), ("uid", text)]

/-- Quantities by the name of the resource. -/
def quantities : Shape := textDict

/-- A condition with the time of its last transition. -/
def condition : Shape :=
  .record [("observedGeneration", int64)]
    [("lastTransitionTime", time), ("message", text), ("reason", text), ("status", text),
      ("type", text)]

/-- The condition of a workload. -/
def workloadCondition (more : List (String × Shape)) : Shape :=
  .record ([("lastTransitionTime", time), ("message", text), ("reason", text)] ++ more)
    [("status", text), ("type", text)]

/-- The addresses of a load balancer. -/
def loadBalancer (more : List (String × Shape)) : Shape :=
  fields [("ingress", listOf <| fields <|
    [("hostname", text), ("ip", text),
      ("ports",
        listOf <| .record [("error", text)] [("port", int32), ("protocol", text)])] ++ more)]

end RouterOperator.Schema
