import RouterOperator.Interconnect.Basic
import RouterOperator.Kubernetes.Rbac

/-!
# Access of routers to the cluster

Routers find each other by listing pods. A role allows that, and a binding grants the role to the
service account that routers run under.
-/

namespace RouterOperator

namespace Interconnect

/-- The rules that let routers find their peers. -/
def routerRules : List PolicyRule :=
  [{ apiGroups := some [""], resources := some ["pods"], verbs := ["get", "list", "watch"] }]

/-- The service account that the routers of a cluster run under. -/
def serviceAccount (cluster : Interconnect) : ServiceAccount where
  metadata := cluster.ownedMeta cluster.name

/-- The role of the routers of a cluster. -/
def role (cluster : Interconnect) : Role where
  metadata := cluster.ownedMeta cluster.name
  rules := some routerRules

/-- The binding of the role to the service account. -/
def roleBinding (cluster : Interconnect) : RoleBinding where
  metadata := cluster.ownedMeta cluster.name
  roleRef := { apiGroup := "rbac.authorization.k8s.io", kind := "Role", name := cluster.name }
  subjects :=
    some [{ kind := "ServiceAccount", name := cluster.name, ns := cluster.metadata.ns }]

end Interconnect

namespace Role

/-- The rules differ. -/
def drifted (current desired : Role) : Bool := current.rules ≠ desired.rules

/-- The live role with the desired rules. -/
def updated (current desired : Role) : Role := { current with rules := desired.rules }

end Role

namespace RoleBinding

/-- The subjects differ. -/
def drifted (current desired : RoleBinding) : Bool := current.subjects ≠ desired.subjects

/-- The live binding with the desired subjects. -/
def updated (current desired : RoleBinding) : RoleBinding :=
  { current with subjects := desired.subjects }

end RoleBinding

end RouterOperator
