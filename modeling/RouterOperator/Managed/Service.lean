import RouterOperator.Interconnect.Basic
import RouterOperator.Kubernetes.Service

/-!
# The service of a cluster

The service has a port for each listener. It may carry an annotation that asks the platform to issue
a certificate for it.
-/

namespace RouterOperator

/-- The annotation that names the secret for a certificate of the service. -/
def servingCertKey : String := "service.alpha.openshift.io/serving-cert-secret-name"

namespace Interconnect

/-- The ports of the service, one for each listener. -/
def servicePorts (cluster : Interconnect) : List ServicePort :=
  cluster.spec.allListeners.map fun listener =>
    { name := some listener.targetName
      protocol := some "TCP"
      port := listener.port
      targetPort := some (.number listener.port) }

/-- The service of a cluster, with the annotation if a certificate is asked for. -/
def service (cluster : Interconnect) (requestCert : Bool) : Service where
  metadata :=
    { cluster.ownedMeta cluster.name with
      annotations :=
        if requestCert then some (.ofList [(servingCertKey, s!"{cluster.name}-cert")])
        else none }
  spec := some {
    ports := some cluster.servicePorts
    selector := some cluster.selectorLabels }

end Interconnect

namespace Service

/-- The secret asked for in the annotation. -/
def servingCert (service : Service) : Option String :=
  service.metadata.allAnnotations.get? servingCertKey

/-- The labels of the pods. -/
def selector (service : Service) : Option (Dict String) := service.spec.bind (·.selector)

/-- The ports reduced to name, number and target. -/
def portTargets (service : Service) : List (Option String × Int32 × Option PortRef) :=
  ((service.spec.bind (·.ports)).getD []).map fun port => (port.name, port.port, port.targetPort)

/-- The annotation, the pods or the ports differ. -/
def drifted (current desired : Service) : Bool :=
  current.servingCert ≠ desired.servingCert || current.selector ≠ desired.selector ||
    current.portTargets ≠ desired.portTargets

/-- The live service with the desired annotation, pods and ports. -/
def updated (current desired : Service) : Service :=
  let annotations := current.metadata.allAnnotations
  let wanted := desired.spec.getD {}
  { current with
    metadata :=
      { current.metadata with
        annotations := some <| match desired.servingCert with
          | some secret => annotations.insert servingCertKey secret
          | none => annotations.erase servingCertKey }
    spec := some
      { current.spec.getD {} with selector := wanted.selector, ports := wanted.ports } }

end Service

end RouterOperator
