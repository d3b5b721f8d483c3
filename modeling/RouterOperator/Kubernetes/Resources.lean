import RouterOperator.Json.Record
import RouterOperator.Kubernetes.Metadata

/-!
# Compute resources

What a container asks of its node. A quantity such as `500m` or `1Gi` is a text that is never
computed with, so it is kept verbatim.
-/

namespace RouterOperator

/-- A claim that a container uses, by name. -/
structure ResourceClaim where
  name : String
  request : Option String := none
deriving DecidableEq

/-- The claims, limits and requests of a container. -/
structure ResourceRequirements where
  claims : Option (List ResourceClaim) := none
  limits : Option (Dict String) := none
  requests : Option (Dict String) := none
deriving DecidableEq

namespace ResourceClaim

/-- Reads a claim. -/
def ofJson? (json : Json) : Option ResourceClaim := do
  let members ← json.members?
  return {
    name := (← members.lastGiven "name" Json.string?).getD ""
    request := ← members.lastGiven "request" Json.string? }

/-- Writes a claim. -/
def toJson (claim : ResourceClaim) : Json :=
  .ofFields [("name", some (.string claim.name)), ("request", claim.request.map .string)]

end ResourceClaim

namespace ResourceRequirements

/-- Reads resource requirements. -/
def ofJson? (json : Json) : Option ResourceRequirements := do
  let members ← json.members?
  return {
    claims := ← members.lastGiven "claims" (Json.listOf? ResourceClaim.ofJson?)
    limits := ← members.lastGiven "limits" Json.texts?
    requests := ← members.lastGiven "requests" Json.texts? }

/-- Writes resource requirements. -/
def toJson (resources : ResourceRequirements) : Json :=
  .ofFields [
    ("claims", resources.claims.map (.list ResourceClaim.toJson)),
    ("limits", resources.limits.map .texts),
    ("requests", resources.requests.map .texts)]

end ResourceRequirements

end RouterOperator
