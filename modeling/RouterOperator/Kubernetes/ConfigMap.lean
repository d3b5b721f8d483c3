import RouterOperator.Kubernetes.Kinded

/-!
# Config maps
-/

namespace RouterOperator

/-- Named texts, and named bytes in base 64. -/
structure ConfigMap where
  metadata : ObjectMeta := {}
  binaryData : Option (Dict String) := none
  data : Option (Dict String) := none
  immutable : Option Bool := none

namespace ConfigMap

/-- The API type of config maps. -/
def apiType : ApiType := ⟨"v1", "ConfigMap", "configmaps"⟩

/-- Reads a config map. -/
def ofJson? (json : Json) : Option ConfigMap := do
  let members ← apiType.clean? Schema.configMap json
  return {
    metadata := ← members.orDefault "metadata" ObjectMeta.ofJson? {}
    binaryData := ← members.optional "binaryData" Json.texts?
    data := ← members.optional "data" Json.texts?
    immutable := ← members.optional "immutable" Json.bool? }

/-- Writes a config map. -/
def toJson (map : ConfigMap) : Json :=
  .ofFields <| apiType.fields ++ [
    ("binaryData", map.binaryData.map .texts),
    ("data", map.data.map .texts),
    ("immutable", map.immutable.map .bool),
    ("metadata", some map.metadata.toJson)]

end ConfigMap

end RouterOperator
