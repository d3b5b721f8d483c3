import RouterOperator.Api.Request
import RouterOperator.Api.Response
import RouterOperator.Reconcile.Pass
import RouterOperator.Schema.Api

/-!
# Discovery

The groups of types that a cluster serves decide which optional capabilities the operator has.
-/

namespace RouterOperator

/-- The group of certificate types. -/
def certificateGroup : String := "cert-manager.io"

/-- The group of route types. -/
def routeGroup : String := "route.openshift.io"

namespace Capabilities

/-- The capabilities of a cluster that serves these groups. -/
def ofGroups (groups : List String) : Capabilities where
  certManager := groups.contains certificateGroup
  routes := groups.contains routeGroup

/-- Reads the name of a group. -/
def groupName? (json : Json) : Option String := do
  let members ← ApiType.clean? ⟨"v1", "APIGroup", "apigroups"⟩ Schema.apiGroup json
  members.required "name" Json.string?

/-- Reads the names of the groups from a list of groups. -/
def groupNames? (json : Json) : Option (List String) := do
  let members ← json.members?
  if ApiType.allows members "apiVersion" "v1" && ApiType.allows members "kind" "APIGroupList" then
    (members.lastGiven "groups" (Json.listOf? groupName?)).map (·.getD [])
  else none

/-- The request that asks for all groups. -/
def probeRequest : ApiRequest := { method := .get, target := { path := "/apis" } }

/-- The capabilities that the answer to a probe shows. -/
def ofProbe (answer : Option Response) : Except Error Capabilities :=
  match Response.resultOf groupNames? answer with
  | .ok groups => .ok (ofGroups groups)
  | .error _ => .error .probe

end Capabilities

end RouterOperator
