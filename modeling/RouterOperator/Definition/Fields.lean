import RouterOperator.Definition.FieldSchema
import RouterOperator.Interconnect.Basic

/-!
# Fields of a cluster

The schemas of the specification and the status of a cluster. A field that is always written has the
value it gets when it is absent; one that is left out when it says nothing has none.
-/

namespace RouterOperator

open FieldSchema

/-- The schema of a text that is always written. -/
def FieldSchema.writtenText : FieldSchema := defaulting (.string "") anyText

/-- The schema of a number that is always written. -/
def FieldSchema.writtenInt32 : FieldSchema := defaulting (.integer 0) int32

/-- The schema of a deployment plan. -/
def DeploymentPlan.schema : FieldSchema :=
  record [
    ("image", optionalText),
    ("issuer", described "Name of a secret holding an externally supplied CA" optionalText),
    ("livenessPort", writtenInt32),
    ("placement",
      nullable (text ([.any, .every, .antiAffinity, .node].map Placement.name))),
    ("resources", anyFields),
    ("role", nullable (text ([.interior, .edge].map RouterRole.name))),
    ("size", writtenInt32)]

/-- The schema of a listener. -/
def Listener.schema : FieldSchema :=
  record [
    ("authenticatePeer", flag),
    ("cost", optionalInt32),
    ("expose", flag),
    ("host", optionalText),
    ("http", flag),
    ("name", optionalText),
    ("port", writtenInt32),
    ("routeContainer", flag),
    ("saslMechanisms", optionalText),
    ("sslProfile", optionalText)]

/-- The schema of a connector. -/
def Connector.schema : FieldSchema :=
  record [
    ("cost", optionalInt32),
    ("host", writtenText),
    ("name", optionalText),
    ("port", writtenInt32),
    ("routeContainer", flag),
    ("sslProfile", optionalText),
    ("verifyHostname", nullable flag)]

/-- The schema of a TLS profile. -/
def SslProfile.schema : FieldSchema :=
  record [
    ("caCert", described "Secret holding the CA used to verify peers" optionalText),
    ("ciphers", optionalText),
    ("credentials", described "Secret holding tls.crt and tls.key" optionalText),
    ("name", required anyText),
    ("protocols", optionalText),
    ("requireClientCerts", flag)]

/-- The schema of the treatment of addresses. -/
def Address.schema : FieldSchema :=
  record [
    ("distribution", optionalText),
    ("egressPhase", optionalInt32),
    ("ingressPhase", optionalInt32),
    ("pattern", optionalText),
    ("prefix", optionalText),
    ("priority", optionalInt32),
    ("waypoint", flag)]

/-- The schema of an automatic link. -/
def AutoLink.schema : FieldSchema :=
  record [
    ("address", writtenText),
    ("connection", optionalText),
    ("containerId", optionalText),
    ("direction", writtenText),
    ("externalPrefix", optionalText),
    ("phase", optionalInt32)]

/-- The schema of a link route. -/
def LinkRoute.schema : FieldSchema :=
  record [
    ("addExternalPrefix", optionalText),
    ("connection", optionalText),
    ("containerId", optionalText),
    ("direction", optionalText),
    ("pattern", optionalText),
    ("prefix", optionalText),
    ("removeExternalPrefix", optionalText)]

/-- The schema of a specification. -/
def InterconnectSpec.schema : FieldSchema :=
  record [
    ("addresses", listOf Address.schema),
    ("autoLinks", listOf AutoLink.schema),
    ("connectors", listOf Connector.schema),
    ("deploymentPlan",
      defaulting (.object [("livenessPort", .integer 0), ("size", .integer 0)])
        DeploymentPlan.schema),
    ("edgeConnectors", listOf Connector.schema),
    ("edgeListeners", listOf Listener.schema),
    ("interRouterConnectors", listOf Connector.schema),
    ("interRouterListeners", listOf Listener.schema),
    ("linkRoutes", listOf LinkRoute.schema),
    ("listeners", listOf Listener.schema),
    ("sslProfiles", listOf SslProfile.schema)]

/-- The schema of a milestone. -/
def Condition.schema : FieldSchema :=
  record [
    ("reason", anyText),
    ("transitionTime", optionalText),
    ("type", required <| text <|
      [.provisioning, .deployed, .scalingUp, .scalingDown, .upgrading].map ConditionType.name)]

/-- The schema of a status. -/
def InterconnectStatus.schema : FieldSchema :=
  record [
    ("conditions", defaulting (.array []) (listOf Condition.schema)),
    ("phase",
      described "Advisory lifecycle phase; the control state is what exists in the store." <|
        defaulting (.string "") <|
          text ([.unset, .creating, .running, .failed].map Phase.name)),
    ("pods", defaulting (.array []) (listOf anyText)),
    ("revNumber", anyText)]

/-- The schema of what a cluster has besides its metadata. -/
def Interconnect.schema : FieldSchema :=
  described "Interconnect declares a cluster of AMQP message routers" <|
    record [
      ("spec", required InterconnectSpec.schema),
      ("status", nullable InterconnectStatus.schema)]

end RouterOperator
