import RouterOperator.Kubernetes.Resources
import RouterOperator.Text.Given

/-!
# Deployment plans

How many routers a cluster runs, in which role, on which nodes and with which resources. Defaults
are filled in elsewhere: an unset role or placement stays unset here and is read through
`roleOrInterior` and `placementOrAny`.
-/

namespace RouterOperator

/-- The role of a router: one of a mesh, or at its edge. -/
inductive RouterRole where
  | interior
  | edge
deriving DecidableEq, Inhabited

namespace RouterRole

/-- The name of a role. -/
def name : RouterRole → String
  | interior => "interior"
  | edge => "edge"

/-- The role of this name. -/
def ofName? : String → Option RouterRole
  | "interior" => some interior
  | "edge" => some edge
  | _ => none

end RouterRole

/-- Where routers run: anywhere, one on every node, no two on a node, or on chosen nodes. -/
inductive Placement where
  | any
  | every
  | antiAffinity
  | node
deriving DecidableEq, Inhabited

namespace Placement

/-- The name of a placement. -/
def name : Placement → String
  | any => "Any"
  | every => "Every"
  | antiAffinity => "AntiAffinity"
  | node => "Node"

/-- The placement of this name. -/
def ofName? : String → Option Placement
  | "Any" => some any
  | "Every" => some every
  | "AntiAffinity" => some antiAffinity
  | "Node" => some node
  | _ => none

end Placement

/-- The part of a cluster's specification that says what is to run. `issuer` names a secret with an
externally supplied certificate authority. -/
structure DeploymentPlan where
  image : Option String := none
  size : Int32 := 0
  role : Option RouterRole := none
  placement : Option Placement := none
  resources : Option ResourceRequirements := none
  issuer : Option String := none
  livenessPort : Int32 := 0
deriving DecidableEq, Inhabited

namespace DeploymentPlan

/-- The role, interior unless set. -/
def roleOrInterior (plan : DeploymentPlan) : RouterRole := plan.role.getD .interior

/-- The placement, anywhere unless set. -/
def placementOrAny (plan : DeploymentPlan) : Placement := plan.placement.getD .any

/-- The secret of the external certificate authority, if one is named. -/
def externalIssuer (plan : DeploymentPlan) : Option String := Text.given plan.issuer

/-- Reads a plan. -/
def ofJson? (json : Json) : Option DeploymentPlan := do
  let members ← json.record?
    ["image", "size", "role", "placement", "resources", "issuer", "livenessPort"] 6
  return {
    image := ← members.optional "image" Json.string?
    size := ← members.defaulted "size" Json.int32? 0
    role := ← members.optional "role" fun json => json.case?.bind RouterRole.ofName?
    placement := ← members.optional "placement" fun json => json.case?.bind Placement.ofName?
    resources := ← members.optional "resources" ResourceRequirements.ofJson?
    issuer := ← members.optional "issuer" Json.string?
    livenessPort := ← members.defaulted "livenessPort" Json.int32? 0 }

/-- Writes a plan. -/
def toJson (plan : DeploymentPlan) : Json :=
  .ofFields [
    ("image", plan.image.map .string),
    ("size", some (.int32 plan.size)),
    ("role", plan.role.map fun role => .string role.name),
    ("placement", plan.placement.map fun placement => .string placement.name),
    ("resources", plan.resources.map ResourceRequirements.toJson),
    ("issuer", plan.issuer.map .string),
    ("livenessPort", some (.int32 plan.livenessPort))]

end DeploymentPlan

end RouterOperator
