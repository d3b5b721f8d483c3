import RouterOperator.Managed.Access
import RouterOperator.Managed.Certificates
import RouterOperator.Managed.Configuration
import RouterOperator.Managed.Exposure
import RouterOperator.Managed.Service
import RouterOperator.Managed.Workload

/-!
# Kinds of objects

Every kind of object that a store holds, with its type and with what can be done to an object of any
kind: reading and writing it, and bringing a live one to a desired state. Service accounts, issuers
and certificates are never changed once they exist.
-/

namespace RouterOperator

/-- A kind of object. -/
inductive Kind where
  | interconnect
  | role
  | roleBinding
  | serviceAccount
  | issuer
  | certificate
  | configMap
  | deployment
  | daemonSet
  | service
  | route
  | ingress
  | pod
deriving DecidableEq, Inhabited

namespace Kind

/-- The objects of a kind. -/
@[reducible] def Object : Kind → Type
  | interconnect => Interconnect
  | role => Role
  | roleBinding => RoleBinding
  | serviceAccount => ServiceAccount
  | issuer => Issuer
  | certificate => Certificate
  | configMap => ConfigMap
  | deployment => Deployment
  | daemonSet => DaemonSet
  | service => Service
  | route => Route
  | ingress => Ingress
  | pod => Pod

/-- The API type of a kind. -/
def apiType : Kind → ApiType
  | interconnect => Interconnect.apiType
  | role => Role.apiType
  | roleBinding => RoleBinding.apiType
  | serviceAccount => ServiceAccount.apiType
  | issuer => Issuer.apiType
  | certificate => Certificate.apiType
  | configMap => ConfigMap.apiType
  | deployment => Deployment.apiType
  | daemonSet => DaemonSet.apiType
  | service => Service.apiType
  | route => Route.apiType
  | ingress => Ingress.apiType
  | pod => Pod.apiType

/-- All kinds. -/
def all : List Kind :=
  [interconnect, role, roleBinding, serviceAccount, issuer, certificate, configMap, deployment,
    daemonSet, service, route, ingress, pod]

/-- The name of a kind. -/
def name (kind : Kind) : String := kind.apiType.kind

/-- The kind of this name. -/
def ofName? (name : String) : Option Kind := all.find? (·.name = name)

/-- The place of a kind among all kinds. -/
def index (kind : Kind) : Nat := all.idxOf kind

/-- The metadata of an object. -/
def metadata : (kind : Kind) → kind.Object → ObjectMeta
  | interconnect, cluster => Interconnect.metadata cluster
  | role, object => Role.metadata object
  | roleBinding, object => RoleBinding.metadata object
  | serviceAccount, object => ServiceAccount.metadata object
  | issuer, object => Issuer.metadata object
  | certificate, object => Certificate.metadata object
  | configMap, object => ConfigMap.metadata object
  | deployment, object => Deployment.metadata object
  | daemonSet, object => DaemonSet.metadata object
  | service, object => Service.metadata object
  | route, object => Route.metadata object
  | ingress, object => Ingress.metadata object
  | pod, object => Pod.metadata object

/-- An object with other metadata. -/
def withMetadata : (kind : Kind) → kind.Object → ObjectMeta → kind.Object
  | interconnect, object, metadata => { object with metadata }
  | role, object, metadata => { object with metadata }
  | roleBinding, object, metadata => { object with metadata }
  | serviceAccount, object, metadata => { object with metadata }
  | issuer, object, metadata => { object with metadata }
  | certificate, object, metadata => { object with metadata }
  | configMap, object, metadata => { object with metadata }
  | deployment, object, metadata => { object with metadata }
  | daemonSet, object, metadata => { object with metadata }
  | service, object, metadata => { object with metadata }
  | route, object, metadata => { object with metadata }
  | ingress, object, metadata => { object with metadata }
  | pod, object, metadata => { object with metadata }

/-- The name of an object, given or to be generated. -/
def nameOf (kind : Kind) (object : kind.Object) : String := (kind.metadata object).anyName

/-- The version a store has given an object. -/
def version? (kind : Kind) (object : kind.Object) : Option String :=
  (kind.metadata object).resourceVersion

/-- An object with the version a store gives it. -/
def withVersion (kind : Kind) (object : kind.Object) (version : String) : kind.Object :=
  kind.withMetadata object { kind.metadata object with resourceVersion := some version }

/-- Reads an object. -/
def ofJson? : (kind : Kind) → Json → Option kind.Object
  | interconnect => Interconnect.ofJson?
  | role => Role.ofJson?
  | roleBinding => RoleBinding.ofJson?
  | serviceAccount => ServiceAccount.ofJson?
  | issuer => Issuer.ofJson?
  | certificate => Certificate.ofJson?
  | configMap => ConfigMap.ofJson?
  | deployment => Deployment.ofJson?
  | daemonSet => DaemonSet.ofJson?
  | service => Service.ofJson?
  | route => Route.ofJson?
  | ingress => Ingress.ofJson?
  | pod => Pod.ofJson?

/-- Writes an object. -/
def toJson : (kind : Kind) → kind.Object → Json
  | interconnect => Interconnect.toJson
  | role => Role.toJson
  | roleBinding => RoleBinding.toJson
  | serviceAccount => ServiceAccount.toJson
  | issuer => Issuer.toJson
  | certificate => Certificate.toJson
  | configMap => ConfigMap.toJson
  | deployment => Deployment.toJson
  | daemonSet => DaemonSet.toJson
  | service => Service.toJson
  | route => Route.toJson
  | ingress => Ingress.toJson
  | pod => Pod.toJson

/-- Whether a live object is to be brought to the desired state. -/
def drifted : (kind : Kind) → (current desired : kind.Object) → Bool
  | role => Role.drifted
  | roleBinding => RoleBinding.drifted
  | configMap => ConfigMap.drifted
  | deployment => Deployment.drifted
  | daemonSet => DaemonSet.drifted
  | service => Service.drifted
  | route => Route.drifted
  | ingress => Ingress.drifted
  | interconnect | serviceAccount | issuer | certificate | pod => fun _ _ => false

/-- A live object brought to the desired state, with all that is not managed left as it is. -/
def updated : (kind : Kind) → (current desired : kind.Object) → kind.Object
  | role => Role.updated
  | roleBinding => RoleBinding.updated
  | configMap => ConfigMap.updated
  | deployment => Deployment.updated
  | daemonSet => DaemonSet.updated
  | service => Service.updated
  | route => Route.updated
  | ingress => Ingress.updated
  | interconnect | serviceAccount | issuer | certificate | pod => fun current _ => current

end Kind

end RouterOperator
