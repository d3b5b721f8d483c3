import RouterOperator.Managed.Exposure
import RouterOperator.Extension.Certificate

/-!
# Certificates of a cluster

Without an external authority a cluster has its own: an issuer that signs itself, a certificate of
the authority signed by it, and an issuer backed by the secret of that certificate. What a TLS
profile lacks is signed by the latter, one piece at a time and in the order of the profiles.
-/

namespace RouterOperator

/-- The next piece of a profile that is to be issued. -/
inductive CertStep where
  /-- The certificate of the routers. -/
  | credentials (profile : String)
  /-- The authority that verifies client certificates. -/
  | caCert (profile : String)
deriving DecidableEq

/-- The profile that a step is for. -/
def CertStep.profile : CertStep → String
  | credentials profile => profile
  | caCert profile => profile

/-- What a profile lacks first: its certificate, then the authority for its clients. -/
def SslProfile.pendingStep (profile : SslProfile) : Option CertStep :=
  if profile.needsCredentials then some (.credentials profile.name)
  else if profile.needsCa then some (.caCert profile.name)
  else none

/-- The profile with the secret that a step has issued. -/
def SslProfile.stamped (profile : SslProfile) (step : CertStep) (secret : String) : SslProfile :=
  match step with
  | .credentials _ => { profile with credentials := some secret }
  | .caCert _ => { profile with caCert := some secret }

namespace Interconnect

/-- The name of the issuer that signs itself, and of the certificate of the authority. -/
def selfSignedName (cluster : Interconnect) : String := s!"{cluster.name}-selfsigned"

/-- The name of the issuer of all profile certificates. -/
def caIssuerName (cluster : Interconnect) : String := s!"{cluster.name}-ca"

/-- The name of the certificate of a profile, and of its secret. -/
def credentialsName (cluster : Interconnect) (profile : String) : String :=
  s!"{cluster.name}-{profile}-tls"

/-- The name of the certificate of the authority for a profile's clients, and of its secret. -/
def clientCaName (cluster : Interconnect) (profile : String) : String :=
  s!"{cluster.name}-{profile}-ca"

/-- The secret of the authority: the external one if there is one, else the cluster's own. -/
def caSecretName (cluster : Interconnect) : String :=
  cluster.spec.deploymentPlan.externalIssuer.getD cluster.selfSignedName

/-- The issuer that signs itself. -/
def selfSignedIssuer (cluster : Interconnect) : Issuer where
  metadata := cluster.ownedMeta cluster.selfSignedName
  spec := { selfSigned := true }

/-- The certificate of the cluster's own authority. -/
def selfSignedCa (cluster : Interconnect) : Certificate where
  metadata := cluster.ownedMeta cluster.selfSignedName
  spec := {
    secretName := cluster.selfSignedName
    commonName := some cluster.serviceHost
    isCa := some true
    issuerRef := .ofName cluster.selfSignedName }

/-- The issuer of all profile certificates. -/
def caIssuer (cluster : Interconnect) : Issuer where
  metadata := cluster.ownedMeta cluster.caIssuerName
  spec := { ca := some cluster.caSecretName }

/-- The certificate of a profile. It is valid for the service and for the hosts of the exposed
listeners that use the profile. -/
def profileCertificate (cluster : Interconnect) (profile : String) : Certificate where
  metadata := cluster.ownedMeta (cluster.credentialsName profile)
  spec := {
    secretName := cluster.credentialsName profile
    commonName := some cluster.serviceHost
    dnsNames := some (cluster.serviceHost :: cluster.exposedHosts profile)
    issuerRef := .ofName cluster.caIssuerName }

/-- The certificate of the authority for a profile's clients. -/
def profileCa (cluster : Interconnect) (profile : String) : Certificate where
  metadata := cluster.ownedMeta (cluster.clientCaName profile)
  spec := {
    secretName := cluster.clientCaName profile
    commonName := some cluster.serviceHost
    dnsNames := some [cluster.serviceHost]
    isCa := some true
    issuerRef := .ofName cluster.caIssuerName }

/-- The next piece to be issued, walking the profiles in order. -/
def pendingStep (cluster : Interconnect) : Option CertStep :=
  cluster.spec.sslProfiles.findSome? SslProfile.pendingStep

/-- The certificate that a step issues. -/
def stepCertificate (cluster : Interconnect) : CertStep → Certificate
  | .credentials profile => cluster.profileCertificate profile
  | .caCert profile => cluster.profileCa profile

/-- The secret that a step issues. -/
def stepSecret (cluster : Interconnect) : CertStep → String
  | .credentials profile => cluster.credentialsName profile
  | .caCert profile => cluster.clientCaName profile

/-- The profiles with the secret of a step put into the first one the step is for; nothing if there
is no such profile. -/
def stampFirst (step : CertStep) (secret : String) : List SslProfile → Option (List SslProfile)
  | [] => none
  | profile :: rest =>
    if profile.name = step.profile then some (profile.stamped step secret :: rest)
    else (stampFirst step secret rest).map (profile :: ·)

/-- The cluster with the secret of a step recorded, if the profile is still there. -/
def stamp? (cluster : Interconnect) (step : CertStep) : Option Interconnect :=
  (stampFirst step (cluster.stepSecret step) cluster.spec.sslProfiles).map fun profiles =>
    { cluster with spec := { cluster.spec with sslProfiles := profiles } }

/-- The cluster with the secret of a step recorded, or as it is if the profile is gone. -/
def stamped (cluster : Interconnect) (step : CertStep) : Interconnect :=
  (cluster.stamp? step).getD cluster

end Interconnect

end RouterOperator
