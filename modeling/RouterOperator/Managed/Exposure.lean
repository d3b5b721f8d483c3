import RouterOperator.Interconnect.Basic
import RouterOperator.Extension.Route
import RouterOperator.Kubernetes.Ingress

/-!
# Exposed listeners

A listener is exposed by a route where the platform has routes, and by an ingress elsewhere. Routes
pass TLS through to the router.
-/

namespace RouterOperator

namespace Interconnect

/-- The route of a listener. -/
def route (cluster : Interconnect) (listener : Listener) : Route where
  metadata := cluster.ownedMeta (cluster.exposureName listener)
  spec := {
    port := some listener.targetName
    tls := some { termination := "passthrough", insecureEdgeTerminationPolicy := some "None" }
    target := { kind := "Service", name := cluster.name } }

/-- The ingress of a listener. -/
def ingress (cluster : Interconnect) (listener : Listener) : Ingress where
  metadata := cluster.ownedMeta (cluster.exposureName listener)
  spec := some {
    rules := some [{
      host := some (cluster.exposureHost listener)
      paths := some [{
        path := some "/"
        pathType := "Prefix"
        backend := { service := some {
          name := cluster.name
          port := some { name := some listener.targetName } } } }] }] }

/-- The hosts of the exposed listeners that use a profile. -/
def exposedHosts (cluster : Interconnect) (profile : String) : List String :=
  (cluster.spec.exposedListeners.filter fun listener => listener.profile = some profile).map
    cluster.exposureHost

end Interconnect

namespace Route

/-- The port, the handling of TLS or the target differ. The host is not compared: the platform
chooses it when it is left open. -/
def drifted (current desired : Route) : Bool :=
  current.spec.port ≠ desired.spec.port || current.spec.tls ≠ desired.spec.tls ||
    current.spec.target ≠ desired.spec.target

/-- The live route with the desired port, handling of TLS and target. -/
def updated (current desired : Route) : Route :=
  { current with
    spec := { current.spec with
      port := desired.spec.port, tls := desired.spec.tls, target := desired.spec.target } }

end Route

namespace Ingress

/-- The rules. -/
def rules (ingress : Ingress) : Option (List IngressRule) := ingress.spec.bind (·.rules)

/-- The rules differ. -/
def drifted (current desired : Ingress) : Bool := current.rules ≠ desired.rules

/-- The live ingress with the desired rules. -/
def updated (current desired : Ingress) : Ingress :=
  { current with spec := some { current.spec.getD {} with rules := desired.rules } }

end Ingress

end RouterOperator
