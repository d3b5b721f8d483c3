import RouterOperator.Proofs.Config.Attributes
import RouterOperator.Proofs.Drift

/-!
# No router without its TLS material

Routers read their configuration when they start, and it points at the files of every TLS profile.
So nothing that routers run from or are reached by is looked at, let alone written, before each
profile has what it needs. The gate stands whatever the store answers: without certificates a pass
ends with the block, and with them it ends in the certificate stages for as long as a piece is
missing.
-/

namespace RouterOperator

/-- The objects that routers run from and are reached by. -/
def Kind.isServing : Kind → Bool
  | configMap | deployment | daemonSet | service | route | ingress => true
  | interconnect | role | roleBinding | serviceAccount | issuer | certificate | pod => false

/-- The calls about such objects, and about the pods themselves. -/
def StoreCall.isServing : StoreCall → Bool
  | get kind _ _ | create kind _ _ | replace kind _ _ => kind.isServing
  | listPods _ _ => true
  | replaceCluster _ | replaceStatus _ | publish _ _ => false

/-- A profile names a certificate, and an authority as well if clients need certificates. -/
def SslProfile.HasMaterial (profile : SslProfile) : Prop :=
  (∃ secret, secret ≠ "" ∧ profile.credentials = some secret) ∧
    (profile.requireClientCerts = true → ∃ secret, secret ≠ "" ∧ profile.caCert = some secret)

/-- A stanza of a profile points at the certificate, its key, and the authority if it is needed. -/
def SslProfile.HasFiles (profile : SslProfile) : Prop :=
  (profile.stanza.attribute? "certFile").isSome ∧
    (profile.stanza.attribute? "privateKeyFile").isSome ∧
    (profile.requireClientCerts = true → (profile.stanza.attribute? "caCertFile").isSome)

namespace SslProfile

variable {profile : SslProfile}

theorem hasMaterial_iff : profile.HasMaterial ↔ profile.isIncomplete = false :=
  profile.isIncomplete_eq_false_iff.symm

theorem HasMaterial.hasFiles (h : profile.HasMaterial) : profile.HasFiles := by
  obtain ⟨⟨certificate, hcertificate, hcredentials⟩, hauthority⟩ := h
  have hcredentials : profile.credentialsSecret = some certificate := by
    rw [credentialsSecret, hcredentials, Text.given_some_of_ne hcertificate]
  refine ⟨?_, ?_, fun hrequired => ?_⟩
  · simp [Stanza.attribute?, stanza, Stanza.of, hcredentials]
  · simp [Stanza.attribute?, stanza, Stanza.of, hcredentials]
  · obtain ⟨authority, hne, hca⟩ := hauthority hrequired
    have hca : profile.caSecret = some authority := by
      rw [caSecret, hca, Text.given_some_of_ne hne]
    simp [Stanza.attribute?, stanza, Stanza.of, hcredentials, hca]

end SslProfile

/-- The stanzas of TLS profiles in a configuration are those of the profiles. -/
theorem InterconnectSpec.stanza_of_profileKind {spec : InterconnectSpec} {stanza : Stanza}
    (hmem : stanza ∈ spec.config.sections.flatten) (hkind : stanza.kind = Stanza.profileKind) :
    ∃ profile ∈ spec.sslProfiles, stanza = profile.stanza := by
  have hother {kind : String} {slots : List Stanza.Attribute} (hne : kind ≠ "sslProfile") :
      stanza ≠ Stanza.of kind slots := by
    rintro rfl
    exact hne hkind
  have hany : ∃ other ∈ spec.config.sections.flatten, stanza = other := ⟨stanza, hmem, rfl⟩
  rw [spec.exists_stanza_iff fun other heq => by rw [← heq, hkind]; decide] at hany
  simpa [Listener.stanza, Listener.routerStanza, Connector.stanza, Connector.routerStanza,
    hother] using hany

namespace Pass

variable {pass : Pass}

theorem Wants.ready {kind : Kind} {desired : kind.Object} (h : pass.Wants kind desired)
    (hkind : kind.isServing = true) : pass.cluster.spec.Ready := by
  cases h with
  | configMap ready => exact ready
  | deployment ready => exact ready
  | daemonSet ready => exact ready
  | service ready => exact ready
  | route ready => exact ready
  | ingress ready => exact ready
  | _ => cases hkind

theorem MayCall.ready {request : StoreCall} (h : pass.MayCall request)
    (hserving : request.isServing = true) : pass.cluster.spec.Ready := by
  cases h with
  | get wanted => exact wanted.ready hserving
  | create wanted => exact wanted.ready hserving
  | replace wanted live => exact wanted.ready hserving
  | resize ready => exact ready
  | otherDeployment ready => exact ready
  | otherDaemonSet ready => exact ready
  | listPods ready => exact ready
  | _ => cases hserving

/-- The config maps that a pass writes hold the configuration of its specification. -/
theorem MayCall.template {request : StoreCall} (h : pass.MayCall request) {ns : String}
    {map : ConfigMap}
    (hwrite : request = .create .configMap ns map ∨ request = .replace .configMap ns map) :
    map.template = some pass.cluster.spec.render := by
  have hbuilt := ConfigMap.template_configMap pass.cluster
  rcases hwrite with rfl | rfl
  · cases h with
    | create wanted =>
        cases wanted
        exact hbuilt
  · cases h with
    | replace wanted live =>
        cases wanted
        exact ConfigMap.template_updated live hbuilt

/-- The services that a pass writes ask for no certificate of their own. -/
theorem MayCall.servingCert {request : StoreCall} (h : pass.MayCall request) {ns : String}
    {service : Service}
    (hwrite : request = .create .service ns service ∨ request = .replace .service ns service) :
    service.servingCert = none := by
  have hbuilt : (pass.cluster.service false).servingCert = none := rfl
  rcases hwrite with rfl | rfl
  · cases h with
    | create wanted =>
        cases wanted
        exact hbuilt
  · cases h with
    | replace wanted live =>
        cases wanted
        exact (Service.servingCert_updated live _).trans hbuilt

end Pass

/-- Whatever the store answers, a pass concerns itself with what serves only once the specification
is a fixed point of the defaults and every profile has its material. So every configuration that it
writes has the files of all profiles, and no service that it writes asks for a certificate. -/
theorem serving_calls_have_material {σ : Type} (runner : Runner σ) (state : σ)
    (settings : Settings) (now : Timestamp) (cluster : Interconnect) :
    ∀ entry ∈ (reconcile settings now cluster).trace runner state,
      (entry.2.isServing = true →
        (cluster.spec.normalize settings.capabilities.certManager).spec = cluster.spec ∧
          ∀ profile ∈ cluster.spec.sslProfiles, profile.HasMaterial) ∧
      (∀ ns (map : ConfigMap),
        entry.2 = .create .configMap ns map ∨ entry.2 = .replace .configMap ns map →
          map.template = some cluster.spec.config.text ∧
            ∀ stanza ∈ cluster.spec.config.sections.flatten,
              stanza.kind = Stanza.profileKind →
                ∃ profile ∈ cluster.spec.sslProfiles,
                  stanza = profile.stanza ∧ profile.HasFiles) ∧
      (∀ ns (service : Service),
        entry.2 = .create .service ns service ∨ entry.2 = .replace .service ns service →
          service.servingCert = none) := by
  intro entry hentry
  cases hns : cluster.metadata.ns with
  | none => simp [reconcile, hns, Program.trace] at hentry
  | some ns =>
      have hcall := (meets_reconcile settings now hns).trace runner state entry hentry
      have hgate : entry.2.isServing = true →
          (cluster.spec.normalize settings.capabilities.certManager).spec = cluster.spec ∧
            ∀ profile ∈ cluster.spec.sslProfiles, profile.HasMaterial := by
        intro hserving
        have hready := hcall.ready hserving
        refine ⟨(InterconnectSpec.normalize_spec_eq_iff _ _).mpr hready.defaults, ?_⟩
        intro profile hprofile
        exact SslProfile.hasMaterial_iff.mpr (hready.complete profile hprofile)
      refine ⟨hgate, ?_, ?_⟩
      · intro space map hwrite
        have hserving : entry.2.isServing = true := by
          rcases hwrite with h | h <;> rw [h] <;> rfl
        refine ⟨hcall.template hwrite, ?_⟩
        intro stanza hstanza hkind
        obtain ⟨profile, hprofile, rfl⟩ := InterconnectSpec.stanza_of_profileKind hstanza hkind
        exact ⟨profile, hprofile, rfl, ((hgate hserving).2 profile hprofile).hasFiles⟩
      · intro space service hwrite
        exact hcall.servingCert hwrite

/-- A cluster with its defaults and one profile that has its certificate. -/
def securedCluster : Interconnect where
  metadata := { name := some "amq", ns := some "msg" }
  spec := {
    deploymentPlan :=
      { size := 1, role := some .edge, placement := some .any, livenessPort := 8888 }
    listeners := [.withProfile 5671 "default"]
    sslProfiles := [{ name := "default", credentials := some "leaf" }] }
  status := some { phase := .creating, revNumber := "3" }

/-- A store in which the routers of a cluster have their access and nothing else exists. -/
def accessOnly (cluster : Interconnect) : Runner Unit where
  expired _ := false
  call
    | .get .role _ _, _ => (.ok (some cluster.role), ())
    | .get .roleBinding _ _, _ => (.ok (some cluster.roleBinding), ())
    | .get .serviceAccount _ _, _ => (.ok (some cluster.serviceAccount), ())
    | .get _ _ _, _ => (.ok none, ())
    | .listPods _ _, _ => (.ok [], ())
    | .create _ _ _, _ | .replace _ _ _, _ | .replaceCluster _, _ | .replaceStatus _, _
    | .publish _ _, _ => (.ok (), ())

theorem secured_configMap_has_files :
    ∃ entry ∈ (reconcile {} default securedCluster).trace (accessOnly securedCluster) (),
      entry.2 = .create .configMap "msg" securedCluster.configMap ∧
        securedCluster.configMap.template = some securedCluster.spec.config.text ∧
        ∀ stanza ∈ securedCluster.spec.config.sections.flatten,
          stanza.kind = Stanza.profileKind →
            ∃ profile ∈ securedCluster.spec.sslProfiles,
              stanza = profile.stanza ∧ profile.HasFiles := by
  have hentry : ((reconcile {} default securedCluster).trace (accessOnly securedCluster) ())[4]? =
      some ((), .create .configMap "msg" securedCluster.configMap) := rfl
  have hmem := List.mem_of_getElem? hentry
  have hgate := serving_calls_have_material (accessOnly securedCluster) () {} default
    securedCluster _ hmem
  obtain ⟨htemplate, hstanzas⟩ := hgate.2.1 "msg" securedCluster.configMap (Or.inl rfl)
  exact ⟨_, hmem, rfl, htemplate, hstanzas⟩

end RouterOperator
