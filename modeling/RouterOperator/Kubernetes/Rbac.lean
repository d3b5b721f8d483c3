import RouterOperator.Kubernetes.Kinded

/-!
# Roles, role bindings and service accounts
-/

namespace RouterOperator

/-- What a role allows: verbs on resources or on paths. -/
structure PolicyRule where
  apiGroups : Option (List String) := none
  nonResourceURLs : Option (List String) := none
  resourceNames : Option (List String) := none
  resources : Option (List String) := none
  verbs : List String := []
deriving DecidableEq

/-- A set of rules. -/
structure Role where
  metadata : ObjectMeta := {}
  rules : Option (List PolicyRule) := none

/-- The role that a binding grants. -/
structure RoleRef where
  apiGroup : String := ""
  kind : String := ""
  name : String := ""
deriving DecidableEq

/-- One that a role is granted to. -/
structure Subject where
  apiGroup : Option String := none
  kind : String := ""
  name : String := ""
  ns : Option String := none
deriving DecidableEq

/-- A role granted to subjects. -/
structure RoleBinding where
  metadata : ObjectMeta := {}
  roleRef : RoleRef := {}
  subjects : Option (List Subject) := none

/-- An identity for pods. -/
structure ServiceAccount where
  metadata : ObjectMeta := {}
  unmanaged : Dict Json := .empty

namespace PolicyRule

/-- Reads a rule. -/
def ofJson? (json : Json) : Option PolicyRule := do
  let members ← json.members?
  return {
    apiGroups := ← members.optional "apiGroups" Json.strings?
    nonResourceURLs := ← members.optional "nonResourceURLs" Json.strings?
    resourceNames := ← members.optional "resourceNames" Json.strings?
    resources := ← members.optional "resources" Json.strings?
    verbs := ← members.orDefault "verbs" Json.strings? [] }

/-- Writes a rule. -/
def toJson (rule : PolicyRule) : Json :=
  .ofFields [
    ("apiGroups", rule.apiGroups.map .strings),
    ("nonResourceURLs", rule.nonResourceURLs.map .strings),
    ("resourceNames", rule.resourceNames.map .strings),
    ("resources", rule.resources.map .strings),
    ("verbs", some (.strings rule.verbs))]

end PolicyRule

namespace Role

/-- The API type of roles. -/
def apiType : ApiType := ⟨"rbac.authorization.k8s.io/v1", "Role", "roles"⟩

/-- Reads a role. -/
def ofJson? (json : Json) : Option Role := do
  let members ← apiType.clean? Schema.role json
  return {
    metadata := ← members.orDefault "metadata" ObjectMeta.ofJson? {}
    rules := ← members.optional "rules" (Json.listOf? PolicyRule.ofJson?) }

/-- Writes a role. -/
def toJson (role : Role) : Json :=
  .ofFields <| apiType.fields ++ [
    ("metadata", some role.metadata.toJson),
    ("rules", role.rules.map (.list PolicyRule.toJson))]

end Role

namespace RoleRef

/-- Reads a reference to a role. -/
def ofJson? (json : Json) : Option RoleRef := do
  let members ← json.members?
  return {
    apiGroup := ← members.orDefault "apiGroup" Json.string? ""
    kind := ← members.orDefault "kind" Json.string? ""
    name := ← members.orDefault "name" Json.string? "" }

/-- Writes a reference to a role. -/
def toJson (reference : RoleRef) : Json :=
  .ofFields [
    ("apiGroup", some (.string reference.apiGroup)),
    ("kind", some (.string reference.kind)),
    ("name", some (.string reference.name))]

end RoleRef

namespace Subject

/-- Reads a subject. -/
def ofJson? (json : Json) : Option Subject := do
  let members ← json.members?
  return {
    apiGroup := ← members.optional "apiGroup" Json.string?
    kind := ← members.orDefault "kind" Json.string? ""
    name := ← members.orDefault "name" Json.string? ""
    ns := ← members.optional "namespace" Json.string? }

/-- Writes a subject. -/
def toJson (subject : Subject) : Json :=
  .ofFields [
    ("apiGroup", subject.apiGroup.map .string),
    ("kind", some (.string subject.kind)),
    ("name", some (.string subject.name)),
    ("namespace", subject.ns.map .string)]

end Subject

namespace RoleBinding

/-- The API type of role bindings. -/
def apiType : ApiType := ⟨"rbac.authorization.k8s.io/v1", "RoleBinding", "rolebindings"⟩

/-- Reads a role binding. -/
def ofJson? (json : Json) : Option RoleBinding := do
  let members ← apiType.clean? Schema.roleBinding json
  return {
    metadata := ← members.orDefault "metadata" ObjectMeta.ofJson? {}
    roleRef := ← members.orDefault "roleRef" RoleRef.ofJson? {}
    subjects := ← members.optional "subjects" (Json.listOf? Subject.ofJson?) }

/-- Writes a role binding. -/
def toJson (binding : RoleBinding) : Json :=
  .ofFields <| apiType.fields ++ [
    ("metadata", some binding.metadata.toJson),
    ("roleRef", some binding.roleRef.toJson),
    ("subjects", binding.subjects.map (.list Subject.toJson))]

end RoleBinding

namespace ServiceAccount

/-- The API type of service accounts. -/
def apiType : ApiType := ⟨"v1", "ServiceAccount", "serviceaccounts"⟩

/-- Reads a service account. -/
def ofJson? (json : Json) : Option ServiceAccount := do
  let members ← apiType.clean? Schema.serviceAccount json
  return {
    metadata := ← members.orDefault "metadata" ObjectMeta.ofJson? {}
    unmanaged := members.without ["metadata"] }

/-- Writes a service account. -/
def toJson (account : ServiceAccount) : Json :=
  .ofFields <| apiType.fields ++
    (account.unmanaged.insert "metadata" account.metadata.toJson).entries.map fun (name, value) =>
      (name, some value)

end ServiceAccount

end RouterOperator
