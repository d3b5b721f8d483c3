import RouterOperator.Json.Record
import RouterOperator.Text.Given

/-!
# TLS profiles

A profile names two secrets: one with a certificate and its key, and one with the authority that
verifies peers. What a profile lacks must be issued before routers can run with it.
-/

namespace RouterOperator

/-- A TLS profile. -/
structure SslProfile where
  name : String
  credentials : Option String := none
  caCert : Option String := none
  requireClientCerts : Bool := false
  ciphers : Option String := none
  protocols : Option String := none
deriving DecidableEq, Inhabited

namespace SslProfile

/-- The secret with the certificate and its key, if one is named. -/
def credentialsSecret (profile : SslProfile) : Option String := Text.given profile.credentials

/-- The secret with the authority that verifies peers, if one is named. -/
def caSecret (profile : SslProfile) : Option String := Text.given profile.caCert

/-- The certificate is still to be issued. -/
def needsCredentials (profile : SslProfile) : Bool := profile.credentialsSecret.isNone

/-- Client certificates are required and the authority to verify them is still to be issued. -/
def needsCa (profile : SslProfile) : Bool := profile.requireClientCerts && profile.caSecret.isNone

/-- Something is still to be issued. -/
def isIncomplete (profile : SslProfile) : Bool := profile.needsCredentials || profile.needsCa

/-- The secrets to mount, once each when the authority lives in the certificate's secret. -/
def secrets (profile : SslProfile) : List String :=
  profile.credentialsSecret.toList ++
    (profile.caSecret.filter fun ca => some ca ≠ profile.credentialsSecret).toList

/-- Reads a profile. -/
def ofJson? (json : Json) : Option SslProfile := do
  let members ← json.record?
    ["name", "credentials", "caCert", "requireClientCerts", "ciphers", "protocols"] 6
  return {
    name := ← members.required "name" Json.string?
    credentials := ← members.optional "credentials" Json.string?
    caCert := ← members.optional "caCert" Json.string?
    requireClientCerts := ← members.defaulted "requireClientCerts" Json.bool? false
    ciphers := ← members.optional "ciphers" Json.string?
    protocols := ← members.optional "protocols" Json.string? }

/-- Writes a profile. -/
def toJson (profile : SslProfile) : Json :=
  .ofFields [
    ("name", some (.string profile.name)),
    ("credentials", profile.credentials.map .string),
    ("caCert", profile.caCert.map .string),
    ("requireClientCerts", Json.ifTrue profile.requireClientCerts),
    ("ciphers", profile.ciphers.map .string),
    ("protocols", profile.protocols.map .string)]

end SslProfile

end RouterOperator
