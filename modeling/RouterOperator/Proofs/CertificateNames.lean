import RouterOperator.Proofs.LeafCertificates

/-!
# Certificates are told apart by their names

A pass looks a certificate up by its name alone, and takes what it finds for the one that it would
have issued. That is right as long as no two purposes of a cluster share a name, whatever its
profiles are called: a profile may have the empty name, or one that ends like a certificate. Then
what is stored under a name was issued for the purpose of the name, and what a profile has for a
secret was issued for this piece of this profile.
-/

namespace RouterOperator

namespace Interconnect

variable {first second : Interconnect}

theorem nameOf_certificateFor_congr (hname : first.name = second.name) (purpose : CertPurpose) :
    Kind.certificate.nameOf (first.certificateFor purpose) =
      Kind.certificate.nameOf (second.certificateFor purpose) := by
  cases purpose with
  | authority =>
      change first.name ++ "-selfsigned" = second.name ++ "-selfsigned"
      rw [hname]
  | step step =>
      cases step with
      | credentials profile =>
          change first.name ++ "-" ++ profile ++ "-tls" = second.name ++ "-" ++ profile ++ "-tls"
          rw [hname]
      | caCert profile =>
          change first.name ++ "-" ++ profile ++ "-ca" = second.name ++ "-" ++ profile ++ "-ca"
          rw [hname]

/-- A certificate and its secret have one name. -/
theorem secretName_certificateFor (cluster : Interconnect) (purpose : CertPurpose) :
    (cluster.certificateFor purpose).spec.secretName =
      Kind.certificate.nameOf (cluster.certificateFor purpose) := by
  cases purpose with
  | authority => rfl
  | step step => cases step <;> rfl

/-- The names tell the purposes apart in all versions of a cluster. -/
theorem certificateName_eq_iff_of_name_eq (hname : first.name = second.name)
    {purpose other : CertPurpose} :
    Kind.certificate.nameOf (first.certificateFor purpose) =
      Kind.certificate.nameOf (second.certificateFor other) ↔ purpose = other := by
  rw [nameOf_certificateFor_congr hname, certificateName_eq_iff]

theorem stepSecret_eq_nameOf (cluster : Interconnect) (step : CertStep) : cluster.stepSecret step =
    Kind.certificate.nameOf (cluster.certificateFor (.step step)) := by
  cases step <;> rfl

theorem stepSecret_eq_iff (hname : first.name = second.name) {step other : CertStep} :
    first.stepSecret step = second.stepSecret other ↔ step = other := by
  rw [stepSecret_eq_nameOf, stepSecret_eq_nameOf, certificateName_eq_iff_of_name_eq hname,
    CertPurpose.step.injEq]

end Interconnect

namespace Simulation

variable {start current : Simulation} {past : List (Simulation × Occurrence)}
  {ns other : String} {certificate : Certificate}

/-- A stored certificate was issued by a pass, for some purpose of the cluster that this was over,
and is as the pass left it. -/
def IssuedFor (past : List (Simulation × Occurrence)) (snapshot : Interconnect)
    (purpose : CertPurpose) (ns : String) (certificate : Certificate) : Prop :=
  IssuedBy past snapshot ns (Kind.certificate.nameOf (snapshot.certificateFor purpose))
    certificate ∧
  ∃ version, certificate = Kind.certificate.withVersion (snapshot.certificateFor purpose) version

theorem History.exists_purpose
    (history : History start (fun _ occurrence => occurrence.PutsNoCertificate) past current)
    (none_yet : ∀ other, start.store.object? ⟨.certificate, ns, other⟩ = none)
    (stored : current.store.object? ⟨.certificate, ns, other⟩ = some certificate) :
    ∃ snapshot purpose, Kind.certificate.nameOf (snapshot.certificateFor purpose) = other ∧
      IssuedFor past snapshot purpose ns certificate := by
  obtain ⟨snapshot, original, version, hissued, his, rfl, hcertificate⟩ :=
    history.exists_origin none_yet stored
  obtain ⟨purpose, rfl⟩ := his.exists_purpose
  exact ⟨snapshot, purpose, rfl, hissued, version, hcertificate⟩

/-- No two certificates of a cluster share a name or a secret, also if its specification changes in
between, and its two issuers have different names. To record a step puts the secret of no other step
in place. And as long as others put no certificates in place, what is stored under the name of a
certificate was issued by a pass, with the secret that the certificate is to have; if the pass was
over the cluster, it was issued for the very purpose. -/
theorem certificates_told_apart {first second : Interconnect} (hname : first.name = second.name) :
    (∀ purpose other,
      (Kind.certificate.nameOf (first.certificateFor purpose) =
        Kind.certificate.nameOf (second.certificateFor other) ↔ purpose = other) ∧
      ((first.certificateFor purpose).spec.secretName =
        (second.certificateFor other).spec.secretName ↔ purpose = other)) ∧
    Kind.issuer.nameOf first.selfSignedIssuer ≠ Kind.issuer.nameOf second.caIssuer ∧
    (∀ step place other, (first.stamped step).HasPiece place (second.stepSecret other) →
      first.HasPiece place (second.stepSecret other) ∨ place = step ∧ other = step) ∧
    ∀ {start current past ns},
      History start (fun _ occurrence => occurrence.PutsNoCertificate) past current →
      (∀ other, start.store.object? ⟨.certificate, ns, other⟩ = none) →
      ∀ purpose certificate, current.store.object?
          ⟨.certificate, ns, Kind.certificate.nameOf (second.certificateFor purpose)⟩ =
          some certificate →
        certificate.spec.secretName = (second.certificateFor purpose).spec.secretName ∧
        ∃ snapshot source, IssuedFor past snapshot source ns certificate ∧
          (snapshot.name = second.name → source = purpose) := by
  refine ⟨fun purpose other => ⟨Interconnect.certificateName_eq_iff_of_name_eq hname, ?_⟩, ?_,
    fun step place other h => ?_, fun history none_yet purpose certificate stored => ?_⟩
  · rw [Interconnect.secretName_certificateFor, Interconnect.secretName_certificateFor]
    exact Interconnect.certificateName_eq_iff_of_name_eq hname
  · exact Text.append_ne rfl rfl (by decide)
  · refine (Interconnect.hasPiece_of_stamped h).imp_right fun ⟨hplace, hsecret⟩ => ⟨hplace, ?_⟩
    exact (Interconnect.stepSecret_eq_iff hname.symm).mp hsecret
  · obtain ⟨snapshot, source, hsource, hissued⟩ := history.exists_purpose none_yet stored
    refine ⟨?_, snapshot, source, hissued, fun hsame =>
      (Interconnect.certificateName_eq_iff_of_name_eq hsame).mp hsource⟩
    obtain ⟨-, version, rfl⟩ := hissued
    rw [Interconnect.secretName_certificateFor, ← hsource,
      ← Interconnect.secretName_certificateFor]
    rfl

/-- In the run that issues one certificate, a version of the cluster with everything exposed finds
it, also if other profiles have names that end alike. -/
theorem issued_certificate_told_apart :
    suppliedCluster.name = (exposing suppliedCluster).name ∧
      (∀ other, issuable.store.object? ⟨.certificate, "msg", other⟩ = none) ∧
      Kind.certificate.nameOf (suppliedCluster.certificateFor (.step (.credentials "selfsigned"))) ≠
        Kind.certificate.nameOf ((exposing suppliedCluster).certificateFor .authority) ∧
      (suppliedCluster.stamped (.credentials "default")).HasPiece (.credentials "default")
        ((exposing suppliedCluster).stepSecret (.credentials "default")) ∧
      ¬ (suppliedCluster.stamped (.credentials "default")).HasPiece (.credentials "default")
        ((exposing suppliedCluster).stepSecret (.credentials "default-tls")) ∧
      ∃ past certificate,
        History issuable (fun _ occurrence => occurrence.PutsNoCertificate) past issuedOnce ∧
        issuedOnce.store.object? ⟨.certificate, "msg", Kind.certificate.nameOf
          ((exposing suppliedCluster).certificateFor (.step (.credentials "default")))⟩ =
          some certificate ∧
        certificate.spec.secretName = "amq-default-tls" ∧
        IssuedFor past suppliedCluster (.step (.credentials "default")) "msg" certificate := by
  have hname : suppliedCluster.name = (exposing suppliedCluster).name := rfl
  obtain ⟨hnames, -, hstamped, hhistory⟩ := certificates_told_apart hname
  have history := history_issuedOnce.imp fun _ _ permitted => permitted.putsNoCertificate
  have hsome : (issuedOnce.store.object? ⟨.certificate, "msg", Kind.certificate.nameOf
      ((exposing suppliedCluster).certificateFor (.step (.credentials "default")))⟩).isSome := by
    decide +kernel
  obtain ⟨certificate, stored⟩ := Option.isSome_iff_exists.mp hsome
  obtain ⟨hsecret, snapshot, source, hissued, hsource⟩ :=
    hhistory history object?_issuable_certificate _ certificate stored
  -- the one pass of the history was over the cluster
  obtain rfl : snapshot = suppliedCluster := by
    obtain ⟨⟨before, settings, now, limits, happened, -⟩, -⟩ := hissued
    simp at happened
    exact happened.2.1
  obtain rfl := hsource rfl
  refine ⟨hname, object?_issuable_certificate, fun hsame => ?_, by decide, fun hpiece => ?_,
    _, certificate, history, stored, hsecret, hissued⟩
  · cases (hnames _ _).1.mp hsame
  · rcases hstamped _ _ _ hpiece with hbefore | ⟨-, hother⟩
    · exact absurd hbefore (by decide)
    · exact absurd hother (by decide)

end Simulation

end RouterOperator
