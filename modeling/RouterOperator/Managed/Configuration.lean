import RouterOperator.Config.Render
import RouterOperator.Kubernetes.ConfigMap

/-!
# The config map of a cluster

The rendered configuration is one entry of a config map; other entries are not looked at.
-/

namespace RouterOperator

/-- The entry with the rendered configuration. -/
def templateKey : String := "qdrouterd.conf.template"

/-- The config map with the rendered configuration of a cluster. -/
def Interconnect.configMap (cluster : Interconnect) : ConfigMap where
  metadata := cluster.ownedMeta cluster.name
  data := some (.ofList [(templateKey, cluster.spec.render)])

namespace ConfigMap

/-- The rendered configuration. -/
def template (map : ConfigMap) : Option String := map.data.bind (·.get? templateKey)

/-- The rendered configurations differ. -/
def drifted (current desired : ConfigMap) : Bool := current.template ≠ desired.template

/-- The live config map with the desired configuration. -/
def updated (current desired : ConfigMap) : ConfigMap :=
  match desired.template with
  | some config =>
    { current with data := some ((current.data.getD .empty).insert templateKey config) }
  | none => current

end ConfigMap

end RouterOperator
