import RouterOperator.Interconnect.Spec

/-!
# Defaults

Filling structural defaults into a specification. Whether certificates can be issued decides which
listeners are added by default. What the user has set is kept, and a specification that has its
defaults gets no others.
-/

namespace RouterOperator

/-- The port of plain client connections. -/
def amqpPort : Int32 := 5672

/-- The port of client connections with TLS. -/
def amqpsPort : Int32 := 5671

/-- The port of plain connections between routers. -/
def interRouterPort : Int32 := 55672

/-- The port of connections between routers with TLS. -/
def interRouterTlsPort : Int32 := 55671

/-- The port of connections from edge routers. -/
def edgePort : Int32 := 45672

/-- The port that tells whether a router is alive. -/
def defaultLivenessPort : Int32 := 8888

/-- The name of the TLS profile that default listeners use. -/
def defaultProfile : String := "default"

/-- The outcome of filling in defaults: the specification, whether something was filled in, and
whether certificates are to be issued for it. -/
structure Normalized where
  spec : InterconnectSpec
  changed : Bool
  requestCert : Bool
deriving DecidableEq

namespace DeploymentPlan

/-- A plan with its defaults: one interior router anywhere, with the usual liveness port. -/
def withDefaults (plan : DeploymentPlan) : DeploymentPlan :=
  { plan with
    size := if plan.size = 0 then 1 else plan.size
    role := some plan.roleOrInterior
    placement := some plan.placementOrAny
    livenessPort := if plan.livenessPort = 0 then defaultLivenessPort else plan.livenessPort }

/-- Some default is missing. -/
def lacksDefaults (plan : DeploymentPlan) : Bool :=
  plan.size = 0 || plan.role.isNone || plan.placement.isNone || plan.livenessPort = 0

end DeploymentPlan

namespace InterconnectSpec

/-- The profiles for which something is still to be issued, by name and in order. -/
def unsatisfiable (spec : InterconnectSpec) : List String :=
  (spec.sslProfiles.filter (·.isIncomplete)).map (·.name)

/-- The listeners for clients unless others are given: a plain one, one that tells whether the
router is alive, and one with TLS if certificates can be issued. -/
def defaultListeners (livenessPort : Int32) (certManager : Bool) : List Listener :=
  [.onPort amqpPort, { Listener.onPort livenessPort with http := true }] ++
    if certManager then [.withProfile amqpsPort defaultProfile] else []

/-- The listener for other interior routers unless others are given. -/
def defaultInterRouterListener (certManager : Bool) : Listener :=
  if certManager then .withProfile interRouterTlsPort defaultProfile else .onPort interRouterPort

/-- Some listener for clients or other interior routers uses the default profile. -/
def usesDefaultProfile (spec : InterconnectSpec) : Bool :=
  (spec.listeners ++ spec.interRouterListeners).any fun listener =>
    listener.profile = some defaultProfile

/-- Some profile has the name of the default profile. -/
def hasDefaultProfile (spec : InterconnectSpec) : Bool :=
  spec.sslProfiles.any fun profile => profile.name = defaultProfile

/-- The specification with the listeners it lacks. Only interior routers listen to other routers. -/
def withListeners (spec : InterconnectSpec) (certManager : Bool) : InterconnectSpec :=
  let plan := spec.deploymentPlan
  let interior := plan.roleOrInterior = .interior
  { spec with
    listeners :=
      if spec.listeners.isEmpty then defaultListeners plan.livenessPort certManager
      else spec.listeners
    interRouterListeners :=
      if interior && spec.interRouterListeners.isEmpty then
        [defaultInterRouterListener certManager]
      else spec.interRouterListeners
    edgeListeners :=
      if interior && spec.edgeListeners.isEmpty then [.onPort edgePort] else spec.edgeListeners }

/-- Some list of listeners is empty that has a default. -/
def lacksListeners (spec : InterconnectSpec) : Bool :=
  spec.listeners.isEmpty ||
    (spec.deploymentPlan.roleOrInterior = .interior &&
      (spec.interRouterListeners.isEmpty || spec.edgeListeners.isEmpty))

/-- The default profile is used and not defined. -/
def lacksDefaultProfile (spec : InterconnectSpec) : Bool :=
  spec.usesDefaultProfile && !spec.hasDefaultProfile

/-- Fills in the defaults. `certManager` tells whether certificates can be issued. -/
def normalize (spec : InterconnectSpec) (certManager : Bool) : Normalized :=
  let planned := { spec with deploymentPlan := spec.deploymentPlan.withDefaults }
  let listening := planned.withListeners certManager
  let lacksProfile := listening.lacksDefaultProfile
  let profiled :=
    if lacksProfile then
      { listening with sslProfiles := listening.sslProfiles ++ [{ name := defaultProfile }] }
    else listening
  { spec := profiled
    changed := spec.deploymentPlan.lacksDefaults || planned.lacksListeners || lacksProfile
    requestCert :=
      (lacksProfile || profiled.sslProfiles.any (·.isIncomplete)) && certManager }

end InterconnectSpec

end RouterOperator
