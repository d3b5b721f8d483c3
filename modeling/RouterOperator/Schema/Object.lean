import RouterOperator.Schema.Pod

/-!
# Shapes of whole objects

The shape of each kind of cluster object that is described by the cluster's own API, without
`apiVersion` and `kind`.
-/

namespace RouterOperator.Schema

open Shape

/-- Rules that a subject may be bound to. -/
def role : Shape :=
  .record [("rules", listOf <| .record
    [("apiGroups", texts), ("nonResourceURLs", texts), ("resourceNames", texts),
      ("resources", texts)] [("verbs", texts)])]
    [("metadata", objectMeta)]

/-- Subjects bound to a role. -/
def roleBinding : Shape :=
  .record [("subjects", listOf <| .record [("apiGroup", text), ("namespace", text)]
    [("kind", text), ("name", text)])]
    [("metadata", objectMeta),
      ("roleRef", .record [] [("apiGroup", text), ("kind", text), ("name", text)])]

/-- An identity for pods. -/
def serviceAccount : Shape :=
  .record [
    ("automountServiceAccountToken", flag), ("imagePullSecrets", listOf localReference),
    ("secrets", listOf objectReference)] [("metadata", objectMeta)]

/-- Configuration data. -/
def configMap : Shape :=
  .record [("binaryData", dictOf bytes), ("data", textDict), ("immutable", flag)]
    [("metadata", objectMeta)]

/-- How many pods may be missing or surplus during an update. -/
def rollingUpdate : Shape := fields [("maxSurge", int32OrText), ("maxUnavailable", int32OrText)]

/-- A workload with a number of interchangeable pods. -/
def deployment : Shape :=
  .record [
    ("spec", .record
      [("minReadySeconds", int32), ("paused", flag), ("progressDeadlineSeconds", int32),
        ("replicas", int32), ("revisionHistoryLimit", int32),
        ("strategy", fields [("rollingUpdate", rollingUpdate), ("type", text)])]
      [("selector", labelSelector), ("template", podTemplate)]),
    ("status", fields [
      ("availableReplicas", int32), ("collisionCount", int32),
      ("conditions", listOf <| workloadCondition [("lastUpdateTime", time)]),
      ("observedGeneration", int64), ("readyReplicas", int32), ("replicas", int32),
      ("terminatingReplicas", int32), ("unavailableReplicas", int32), ("updatedReplicas", int32)])]
    [("metadata", objectMeta)]

/-- A workload with one pod on every node. -/
def daemonSet : Shape :=
  .record [
    ("spec", .record
      [("minReadySeconds", int32), ("revisionHistoryLimit", int32),
        ("updateStrategy", fields [("rollingUpdate", rollingUpdate), ("type", text)])]
      [("selector", labelSelector), ("template", podTemplate)]),
    ("status", .record
      [("collisionCount", int32), ("conditions", listOf <| workloadCondition []),
        ("numberAvailable", int32), ("numberUnavailable", int32), ("observedGeneration", int64),
        ("updatedNumberScheduled", int32)]
      [("currentNumberScheduled", int32), ("desiredNumberScheduled", int32),
        ("numberMisscheduled", int32), ("numberReady", int32)])]
    [("metadata", objectMeta)]

/-- A stable address for a set of pods. -/
def service : Shape :=
  .record [
    ("spec", fields [
      ("allocateLoadBalancerNodePorts", flag), ("clusterIP", text), ("clusterIPs", texts),
      ("externalIPs", texts), ("externalName", text), ("externalTrafficPolicy", text),
      ("healthCheckNodePort", int32), ("internalTrafficPolicy", text), ("ipFamilies", texts),
      ("ipFamilyPolicy", text), ("loadBalancerClass", text), ("loadBalancerIP", text),
      ("loadBalancerSourceRanges", texts),
      ("ports", listOf <| .record
        [("appProtocol", text), ("name", text), ("nodePort", int32), ("protocol", text),
          ("targetPort", int32OrText)] [("port", int32)]),
      ("publishNotReadyAddresses", flag), ("selector", textDict), ("sessionAffinity", text),
      ("sessionAffinityConfig", fields [("clientIP", fields [("timeoutSeconds", int32)])]),
      ("trafficDistribution", text), ("type", text)]),
    ("status", fields [
      ("conditions", listOf condition), ("loadBalancer", loadBalancer [("ipMode", text)])])]
    [("metadata", objectMeta)]

/-- A place that requests from outside are passed to. -/
def ingressBackend : Shape :=
  fields [
    ("resource", .record [("apiGroup", text)] [("kind", text), ("name", text)]),
    ("service", .record [("port", fields [("name", text), ("number", int32)])] [("name", text)])]

/-- Rules for requests from outside. -/
def ingress : Shape :=
  .record [
    ("spec", fields [
      ("defaultBackend", ingressBackend), ("ingressClassName", text),
      ("rules", listOf <| fields [
        ("host", text),
        ("http", .record [] [("paths", listOf <| .record [("path", text)]
          [("backend", ingressBackend), ("pathType", text)])])]),
      ("tls", listOf <| fields [("hosts", texts), ("secretName", text)])]),
    ("status", fields [("loadBalancer", loadBalancer [])])]
    [("metadata", objectMeta)]

/-- A pod. -/
def pod : Shape := .record [("spec", podSpec), ("status", podStatus)] [("metadata", objectMeta)]

end RouterOperator.Schema
