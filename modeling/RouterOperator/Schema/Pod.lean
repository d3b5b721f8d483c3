import RouterOperator.Schema.Volume

/-!
# Shape of pods
-/

namespace RouterOperator.Schema

open Shape

/-- A command run in a container. -/
def execAction : Shape := fields [("command", texts)]

/-- A request to a port of a container. -/
def httpGetAction : Shape :=
  .record [("host", text), ("httpHeaders", listOf <| .record [] [("name", text), ("value", text)]),
    ("path", text), ("scheme", text)] [("port", int32OrText)]

/-- A connection to a port of a container. -/
def tcpSocketAction : Shape := .record [("host", text)] [("port", int32OrText)]

/-- A check on a container. -/
def probe : Shape :=
  fields [
    ("exec", execAction), ("failureThreshold", int32),
    ("grpc", .record [("service", text)] [("port", int32)]), ("httpGet", httpGetAction),
    ("initialDelaySeconds", int32), ("periodSeconds", int32), ("successThreshold", int32),
    ("tcpSocket", tcpSocketAction), ("terminationGracePeriodSeconds", int64),
    ("timeoutSeconds", int32)]

/-- An action at the start or the end of a container. -/
def lifecycleHandler : Shape :=
  fields [
    ("exec", execAction), ("httpGet", httpGetAction), ("sleep", .record [] [("seconds", int64)]),
    ("tcpSocket", tcpSocketAction)]

/-- A variable of a container's environment. -/
def envVar : Shape :=
  .record [
    ("value", text),
    ("valueFrom", fields [
      ("configMapKeyRef", .record [("optional", flag)] [("key", text), ("name", text)]),
      ("fieldRef", fieldReference), ("resourceFieldRef", resourceReference),
      ("secretKeyRef", .record [("optional", flag)] [("key", text), ("name", text)])])]
    [("name", text)]

/-- The labels of a security policy. -/
def seLinuxOptions : Shape :=
  fields [("level", text), ("role", text), ("type", text), ("user", text)]

/-- The profile of a security policy. -/
def securityProfile : Shape := .record [("localhostProfile", text)] [("type", text)]

/-- The credentials of a container on a Windows node. -/
def windowsOptions : Shape :=
  fields [
    ("gmsaCredentialSpec", text), ("gmsaCredentialSpecName", text), ("hostProcess", flag),
    ("runAsUserName", text)]

/-- The rights of a container. -/
def securityContext : Shape :=
  fields [
    ("allowPrivilegeEscalation", flag), ("appArmorProfile", securityProfile),
    ("capabilities", fields [("add", texts), ("drop", texts)]), ("privileged", flag),
    ("procMount", text), ("readOnlyRootFilesystem", flag), ("runAsGroup", int64),
    ("runAsNonRoot", flag), ("runAsUser", int64), ("seLinuxOptions", seLinuxOptions),
    ("seccompProfile", securityProfile), ("windowsOptions", windowsOptions)]

/-- The rights of all containers of a pod. -/
def podSecurityContext : Shape :=
  fields [
    ("appArmorProfile", securityProfile), ("fsGroup", int64), ("fsGroupChangePolicy", text),
    ("runAsGroup", int64), ("runAsNonRoot", flag), ("runAsUser", int64),
    ("seLinuxChangePolicy", text), ("seLinuxOptions", seLinuxOptions),
    ("seccompProfile", securityProfile), ("supplementalGroups", listOf int64),
    ("supplementalGroupsPolicy", text),
    ("sysctls", listOf <| .record [] [("name", text), ("value", text)]),
    ("windowsOptions", windowsOptions)]

/-- The claims, limits and requests of a container. -/
def resourceRequirements : Shape :=
  fields [
    ("claims", listOf <| .record [("request", text)] [("name", text)]), ("limits", quantities),
    ("requests", quantities)]

/-- A mount of a volume in a container. -/
def volumeMount : Shape :=
  .record [
    ("mountPropagation", text), ("readOnly", flag), ("recursiveReadOnly", text), ("subPath", text),
    ("subPathExpr", text)] [("mountPath", text), ("name", text)]

/-- The members that every kind of container has, its name apart. -/
def containerMembers : List (String × Shape) := [
  ("args", texts), ("command", texts), ("env", listOf envVar),
  ("envFrom", listOf <| fields [
    ("configMapRef", .record [("optional", flag)] [("name", text)]), ("prefix", text),
    ("secretRef", .record [("optional", flag)] [("name", text)])]),
  ("image", text), ("imagePullPolicy", text),
  ("lifecycle", fields [
    ("postStart", lifecycleHandler), ("preStop", lifecycleHandler), ("stopSignal", text)]),
  ("livenessProbe", probe),
  ("ports", listOf <| .record
    [("hostIP", text), ("hostPort", int32), ("name", text), ("protocol", text)]
    [("containerPort", int32)]),
  ("readinessProbe", probe),
  ("resizePolicy", listOf <| .record [] [("resourceName", text), ("restartPolicy", text)]),
  ("resources", resourceRequirements), ("restartPolicy", text),
  ("securityContext", securityContext), ("startupProbe", probe), ("stdin", flag),
  ("stdinOnce", flag), ("terminationMessagePath", text), ("terminationMessagePolicy", text),
  ("tty", flag),
  ("volumeDevices", listOf <| .record [] [("devicePath", text), ("name", text)]),
  ("volumeMounts", listOf volumeMount), ("workingDir", text)]

/-- A container of a pod. -/
def container : Shape := .record containerMembers [("name", text)]

/-- A container added to a running pod. -/
def ephemeralContainer : Shape :=
  .record (containerMembers ++ [("targetContainerName", text)]) [("name", text)]

/-- Requirements on labels or fields of nodes. -/
def nodeSelectorTerm : Shape :=
  let requirements := listOf <| .record [("values", texts)] [("key", text), ("operator", text)]
  fields [("matchExpressions", requirements), ("matchFields", requirements)]

/-- Pods that a pod is placed near to or far from. -/
def podAffinityTerm : Shape :=
  .record [
    ("labelSelector", labelSelector), ("matchLabelKeys", texts), ("mismatchLabelKeys", texts),
    ("namespaceSelector", labelSelector), ("namespaces", texts)] [("topologyKey", text)]

/-- Placement near to or far from other pods. -/
def podAffinity : Shape :=
  fields [
    ("preferredDuringSchedulingIgnoredDuringExecution",
      listOf <| .record [] [("podAffinityTerm", podAffinityTerm), ("weight", int32)]),
    ("requiredDuringSchedulingIgnoredDuringExecution", listOf podAffinityTerm)]

/-- Constraints on the node a pod is placed on. -/
def affinity : Shape :=
  fields [
    ("nodeAffinity", fields [
      ("preferredDuringSchedulingIgnoredDuringExecution",
        listOf <| .record [] [("preference", nodeSelectorTerm), ("weight", int32)]),
      ("requiredDuringSchedulingIgnoredDuringExecution",
        .record [] [("nodeSelectorTerms", listOf nodeSelectorTerm)])]),
    ("podAffinity", podAffinity), ("podAntiAffinity", podAffinity)]

/-- What a pod runs. -/
def podSpec : Shape :=
  .record [
    ("activeDeadlineSeconds", int64), ("affinity", affinity),
    ("automountServiceAccountToken", flag),
    ("dnsConfig", fields [
      ("nameservers", texts), ("options", listOf <| fields [("name", text), ("value", text)]),
      ("searches", texts)]),
    ("dnsPolicy", text), ("enableServiceLinks", flag),
    ("ephemeralContainers", listOf ephemeralContainer),
    ("hostAliases", listOf <| .record [("hostnames", texts)] [("ip", text)]), ("hostIPC", flag),
    ("hostNetwork", flag), ("hostPID", flag), ("hostUsers", flag), ("hostname", text),
    ("imagePullSecrets", listOf localReference), ("initContainers", listOf container),
    ("nodeName", text), ("nodeSelector", textDict), ("os", .record [] [("name", text)]),
    ("overhead", quantities), ("preemptionPolicy", text), ("priority", int32),
    ("priorityClassName", text),
    ("readinessGates", listOf <| .record [] [("conditionType", text)]),
    ("resourceClaims", listOf <| .record
      [("resourceClaimName", text), ("resourceClaimTemplateName", text)] [("name", text)]),
    ("resources", resourceRequirements), ("restartPolicy", text), ("runtimeClassName", text),
    ("schedulerName", text), ("schedulingGates", listOf <| .record [] [("name", text)]),
    ("securityContext", podSecurityContext), ("serviceAccount", text),
    ("serviceAccountName", text), ("setHostnameAsFQDN", flag), ("shareProcessNamespace", flag),
    ("subdomain", text), ("terminationGracePeriodSeconds", int64),
    ("tolerations", listOf <| fields [
      ("effect", text), ("key", text), ("operator", text), ("tolerationSeconds", int64),
      ("value", text)]),
    ("topologySpreadConstraints", listOf <| .record
      [("labelSelector", labelSelector), ("matchLabelKeys", texts), ("minDomains", int32),
        ("nodeAffinityPolicy", text), ("nodeTaintsPolicy", text)]
      [("maxSkew", int32), ("topologyKey", text), ("whenUnsatisfiable", text)]),
    ("volumes", listOf volume)]
    [("containers", listOf container)]

/-- The pods a workload makes. -/
def podTemplate : Shape := fields [("metadata", objectMeta), ("spec", podSpec)]

/-- The state of a container. -/
def containerState : Shape :=
  fields [
    ("running", fields [("startedAt", time)]),
    ("terminated", .record
      [("containerID", text), ("finishedAt", time), ("message", text), ("reason", text),
        ("signal", int32), ("startedAt", time)] [("exitCode", int32)]),
    ("waiting", fields [("message", text), ("reason", text)])]

/-- What is known of a container. -/
def containerStatus : Shape :=
  .record [
    ("allocatedResources", quantities),
    ("allocatedResourcesStatus", listOf <| .record
      [("resources", listOf <| .record [("health", text)] [("resourceID", text)])]
      [("name", text)]),
    ("containerID", text), ("lastState", containerState), ("resources", resourceRequirements),
    ("started", flag), ("state", containerState), ("stopSignal", text),
    ("user", fields [("linux",
      .record [("supplementalGroups", listOf int64)] [("gid", int64), ("uid", int64)])]),
    ("volumeMounts", listOf <| .record [("readOnly", flag), ("recursiveReadOnly", text)]
      [("mountPath", text), ("name", text)])]
    [("image", text), ("imageID", text), ("name", text), ("ready", flag), ("restartCount", int32)]

/-- What is known of a pod. -/
def podStatus : Shape :=
  fields [
    ("conditions", listOf <| workloadCondition
      [("lastProbeTime", time), ("observedGeneration", int64)]),
    ("containerStatuses", listOf containerStatus),
    ("ephemeralContainerStatuses", listOf containerStatus), ("hostIP", text),
    ("hostIPs", listOf <| .record [] [("ip", text)]),
    ("initContainerStatuses", listOf containerStatus), ("message", text),
    ("nominatedNodeName", text), ("observedGeneration", int64), ("phase", text), ("podIP", text),
    ("podIPs", listOf <| .record [] [("ip", text)]), ("qosClass", text), ("reason", text),
    ("resize", text),
    ("resourceClaimStatuses", listOf <| .record [("resourceClaimName", text)] [("name", text)]),
    ("startTime", time)]

end RouterOperator.Schema
