import RouterOperator.Kubernetes.Kinded

/-!
# Issuers and certificates

The part of the certificate manager's API that router certificates are issued with. The objects of
an extension may be read whatever version and kind they state.
-/

namespace RouterOperator

/-- What signs certificates: the certificates themselves, or the authority in the secret `ca`. -/
structure IssuerSpec where
  selfSigned : Bool := false
  ca : Option String := none
deriving DecidableEq

/-- A source of certificates. -/
structure Issuer where
  metadata : ObjectMeta
  spec : IssuerSpec

/-- A reference to an issuer. -/
structure IssuerRef where
  name : String
  kind : Option String := none
  group : Option String := none
deriving DecidableEq

/-- What a certificate is to say, and the secret it is to be put in. -/
structure CertificateSpec where
  secretName : String
  commonName : Option String := none
  dnsNames : Option (List String) := none
  isCa : Option Bool := none
  issuerRef : IssuerRef
deriving DecidableEq

/-- A certificate to be issued. -/
structure Certificate where
  metadata : ObjectMeta
  spec : CertificateSpec

namespace IssuerSpec

/-- Reads the secret of an authority. -/
def ca? (json : Json) : Option String := do
  let members ← json.record? ["secretName"] 1
  members.required "secretName" Json.string?

/-- Reads what signs certificates. -/
def ofJson? (json : Json) : Option IssuerSpec := do
  let members ← json.record? ["selfSigned", "ca"] 2
  return {
    selfSigned := (← members.optional "selfSigned" fun json => json.record? [] 0).isSome
    ca := ← members.optional "ca" ca? }

/-- Writes what signs certificates. -/
def toJson (spec : IssuerSpec) : Json :=
  .ofFields [
    ("selfSigned", if spec.selfSigned then some (.object []) else none),
    ("ca", spec.ca.map fun secret => .ofFields [("secretName", some (.string secret))])]

end IssuerSpec

namespace Issuer

/-- The API type of issuers. -/
def apiType : ApiType := ⟨"cert-manager.io/v1", "Issuer", "issuers"⟩

/-- Reads an issuer. -/
def ofJson? (json : Json) : Option Issuer := do
  let members ← json.record? ["metadata", "spec"] 2
  return {
    metadata := ← members.required "metadata" ObjectMeta.ofJson?
    spec := ← members.required "spec" IssuerSpec.ofJson? }

/-- Writes an issuer. -/
def toJson (issuer : Issuer) : Json :=
  .ofFields <| apiType.fields ++ [
    ("metadata", some issuer.metadata.toJson), ("spec", some issuer.spec.toJson)]

end Issuer

namespace IssuerRef

/-- A reference to an issuer of the same namespace. -/
def ofName (name : String) : IssuerRef :=
  { name, kind := some "Issuer", group := some "cert-manager.io" }

/-- Reads a reference. -/
def ofJson? (json : Json) : Option IssuerRef := do
  let members ← json.record? ["name", "kind", "group"] 3
  return {
    name := ← members.required "name" Json.string?
    kind := ← members.optional "kind" Json.string?
    group := ← members.optional "group" Json.string? }

/-- Writes a reference. -/
def toJson (reference : IssuerRef) : Json :=
  .ofFields [
    ("name", some (.string reference.name)),
    ("kind", reference.kind.map .string),
    ("group", reference.group.map .string)]

end IssuerRef

namespace CertificateSpec

/-- Reads what a certificate is to say. -/
def ofJson? (json : Json) : Option CertificateSpec := do
  let members ← json.record? ["secretName", "commonName", "dnsNames", "isCa", "issuerRef"] 5
  return {
    secretName := ← members.required "secretName" Json.string?
    commonName := ← members.optional "commonName" Json.string?
    dnsNames := ← members.optional "dnsNames" Json.strings?
    isCa := ← members.optional "isCa" Json.bool?
    issuerRef := ← members.required "issuerRef" IssuerRef.ofJson? }

/-- Writes what a certificate is to say. -/
def toJson (spec : CertificateSpec) : Json :=
  .ofFields [
    ("secretName", some (.string spec.secretName)),
    ("commonName", spec.commonName.map .string),
    ("dnsNames", spec.dnsNames.map .strings),
    ("isCa", spec.isCa.map .bool),
    ("issuerRef", some spec.issuerRef.toJson)]

end CertificateSpec

namespace Certificate

/-- The API type of certificates. -/
def apiType : ApiType := ⟨"cert-manager.io/v1", "Certificate", "certificates"⟩

/-- Reads a certificate. -/
def ofJson? (json : Json) : Option Certificate := do
  let members ← json.record? ["metadata", "spec"] 2
  return {
    metadata := ← members.required "metadata" ObjectMeta.ofJson?
    spec := ← members.required "spec" CertificateSpec.ofJson? }

/-- Writes a certificate. -/
def toJson (certificate : Certificate) : Json :=
  .ofFields <| apiType.fields ++ [
    ("metadata", some certificate.metadata.toJson), ("spec", some certificate.spec.toJson)]

end Certificate

end RouterOperator
