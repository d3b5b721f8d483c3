import RouterOperator.Proofs.CertificateSteps
import RouterOperator.Reconcile.Pass

/-!
# The order of certificates

What the TLS profiles of a cluster lack makes one list: profile by profile, and for each its
certificate before the authority for its clients. Where profiles have names of their own every step
takes the head of this list and leaves its tail, so the steps of a cluster are the list from front
to back, and after them nothing is pending. The certificate of a step has the name and the secret
that the profile is given.
-/

namespace RouterOperator

namespace SslProfile

variable {profile : SslProfile} {step : CertStep} {secret : String}

/-- The pieces that a profile lacks, in the order in which they are issued. -/
def lacking (profile : SslProfile) : List CertStep :=
  (if profile.needsCredentials then [.credentials profile.name] else []) ++
    if profile.needsCa then [.caCert profile.name] else []

theorem head?_lacking (profile : SslProfile) : profile.lacking.head? = profile.pendingStep := by
  unfold lacking pendingStep
  cases profile.needsCredentials <;> cases profile.needsCa <;> rfl

/-- The step of a profile takes the first piece that it lacks and leaves the others. -/
theorem lacking_stamped (h : profile.pendingStep = some step) (hsecret : secret ≠ "") :
    (profile.stamped step secret).lacking = profile.lacking.tail := by
  have hgiven : (Text.given (some secret)).isNone = false := by
    rw [Text.given_some_of_ne hsecret]
    rfl
  unfold pendingStep at h
  split at h
  next hlacks =>
    cases h
    have hcredentials :
        (profile.stamped (.credentials profile.name) secret).needsCredentials = false := hgiven
    have hca : (profile.stamped (.credentials profile.name) secret).needsCa = profile.needsCa := rfl
    rw [lacking, lacking, hcredentials, hca, hlacks]
    rfl
  next hnamed =>
    split at h
    next hlacks =>
      cases h
      have hcredentials : (profile.stamped (.caCert profile.name) secret).needsCredentials =
          profile.needsCredentials := rfl
      have hca : (profile.stamped (.caCert profile.name) secret).needsCa = false := by
        simp [stamped, needsCa, caSecret, hgiven]
      rw [lacking, lacking, hcredentials, hca, hlacks, if_neg hnamed, if_neg hnamed]
      rfl
    next => cases h

end SslProfile

namespace Interconnect

variable {cluster : Interconnect} {step : CertStep}

/-- The pieces that the profiles of a cluster lack, in the order in which they are issued. -/
def lacking (cluster : Interconnect) : List CertStep :=
  cluster.spec.sslProfiles.flatMap SslProfile.lacking

/-- The cluster with its pending step recorded, or as it is if there is none. -/
def advanced (cluster : Interconnect) : Interconnect :=
  match cluster.pendingStep with
  | some step => cluster.stamped step
  | none => cluster

theorem head?_lacking (cluster : Interconnect) : cluster.lacking.head? = cluster.pendingStep := by
  rw [lacking, List.head?_flatMap, pendingStep]
  exact congrArg (cluster.spec.sslProfiles.findSome? ·) (funext SslProfile.head?_lacking)

theorem advanced_of_pending (h : cluster.pendingStep = some step) :
    cluster.advanced = cluster.stamped step := by
  rw [advanced, h]

theorem advanced_of_complete (h : cluster.pendingStep = none) : cluster.advanced = cluster := by
  rw [advanced, h]

/-- The pieces that a filled profile lacked come first, since those in front of it lack nothing. -/
theorem Fills.lacking {before after : List SslProfile} {profile : SslProfile}
    (h : cluster.Fills step before profile after) :
    (cluster.stamped step).lacking = cluster.lacking.tail := by
  have hbefore : before.flatMap SslProfile.lacking = [] := by
    rw [List.flatMap_eq_nil_iff]
    intro other hother
    rw [← List.head?_eq_none_iff, SslProfile.head?_lacking]
    exact h.first other hother
  have hne : profile.lacking ≠ [] := by
    intro hnil
    have hnone := h.pending
    rw [← SslProfile.head?_lacking, hnil] at hnone
    cases hnone
  rw [h.toRecords.stamped_eq, Interconnect.lacking, Interconnect.lacking, h.profiles, withProfiles]
  simp only [List.flatMap_append, List.flatMap_cons, hbefore, List.nil_append]
  rw [SslProfile.lacking_stamped h.pending (cluster.stepSecret_ne_empty step),
    List.tail_append_of_ne_nil hne]

/-- What some steps make of a cluster: other secrets in the same profiles, which lack the rest of
the list. -/
structure Reaches (cluster : Interconnect) (count : Nat) (reached : Interconnect) : Prop where
  frame : ∃ profiles, reached = cluster.withProfiles profiles
  names : reached.spec.sslProfiles.map (·.name) = cluster.spec.sslProfiles.map (·.name)
  lacking : reached.lacking = cluster.lacking.drop count

theorem reaches_advanced (hdistinct : (cluster.spec.sslProfiles.map (·.name)).Nodup) :
    cluster.Reaches 1 cluster.advanced := by
  cases hstep : cluster.pendingStep with
  | none =>
      have hnil : cluster.lacking = [] := by
        rw [← List.head?_eq_none_iff, head?_lacking, hstep]
      rw [advanced_of_complete hstep]
      exact ⟨⟨cluster.spec.sslProfiles, rfl⟩, rfl, by rw [hnil]; rfl⟩
  | some step =>
      obtain ⟨profiles, hstamped, hnames, -⟩ := stamped_of_pending hdistinct hstep
      obtain ⟨before, profile, after, hfills⟩ :=
        advances_of_not_shadowed hstep (not_shadowed_of_nodup hdistinct hstep)
      rw [advanced_of_pending hstep]
      refine ⟨⟨profiles, hstamped⟩, ?_, ?_⟩
      · rw [hstamped]
        exact hnames
      · rw [hfills.lacking, List.drop_one]

theorem reaches_iterate (hdistinct : (cluster.spec.sslProfiles.map (·.name)).Nodup)
    (count : Nat) : cluster.Reaches count (advanced^[count] cluster) := by
  induction count with
  | zero => exact ⟨⟨cluster.spec.sslProfiles, rfl⟩, rfl, rfl⟩
  | succ count ih =>
      have hnext := reaches_advanced (ih.names ▸ hdistinct)
      obtain ⟨profiles, hframe⟩ := ih.frame
      obtain ⟨stamped, hstamped⟩ := hnext.frame
      rw [Function.iterate_succ_apply']
      refine ⟨⟨stamped, ?_⟩, hnext.names.trans ih.names, ?_⟩
      · rw [hstamped, hframe]
        rfl
      · rw [hnext.lacking, ih.lacking, List.drop_drop]

/-- The certificate of a step, for a secret of its own name: the authority of the cluster signs it,
it is an authority itself exactly if the step is for one, and it is valid for the service first of
all. -/
structure Certifies (cluster : Interconnect) (step : CertStep) (certificate : Certificate) :
    Prop where
  name : certificate.metadata.name = some certificate.spec.secretName
  signer : certificate.spec.issuerRef = .ofName (Kind.issuer.nameOf cluster.caIssuer)
  isCa : certificate.spec.isCa = some true ↔ ∃ profile, step = .caCert profile
  commonName : certificate.spec.commonName = some cluster.serviceHost
  dnsNames : ∃ others, certificate.spec.dnsNames = some (cluster.serviceHost :: others)

theorem certifies_stepCertificate (cluster : Interconnect) (step : CertStep) :
    cluster.Certifies step (cluster.stepCertificate step) := by
  cases step with
  | credentials profile =>
      refine ⟨rfl, rfl, ⟨?_, ?_⟩, rfl, cluster.exposedHosts profile, rfl⟩
      · intro hflag
        cases hflag
      · rintro ⟨_, hstep⟩
        cases hstep
  | caCert profile => exact ⟨rfl, rfl, ⟨fun _ => ⟨profile, rfl⟩, fun _ => rfl⟩, rfl, [], rfl⟩

/-- A step in its turn, taken by a cluster that has reached it. Its certificate is the one that is
built for the cluster from the start, the first profile that lacks something is given the secret of
that certificate and nothing else changes, and this is what a pass brings about and stores. -/
structure Takes (cluster reached : Interconnect) (step : CertStep) (certificate : Certificate) :
    Prop where
  pending : reached.pendingStep = some step
  built : reached.stepCertificate step = certificate
  certifies : cluster.Certifies step certificate
  fills : ∃ before profile after, reached.Fills step before profile after ∧
    reached.advanced = reached.withProfiles
      (before ++ profile.stamped step certificate.spec.secretName :: after)
  stage : ∀ pass : Pass, pass.cluster = reached → pass.issueStage = do
    let created ← pass.ensureStage .certificate certificate
    Pass.persistSpec reached.advanced
    return some (created.getD .specUpdated)

/-- A cluster takes a step as one of its own, whatever steps have led to it. -/
theorem Reaches.takes {count : Nat} {reached : Interconnect} (h : cluster.Reaches count reached)
    (hdistinct : (cluster.spec.sslProfiles.map (·.name)).Nodup)
    (hstep : reached.pendingStep = some step) :
    cluster.Takes reached step (cluster.stepCertificate step) := by
  have hadvanced := advanced_of_pending hstep
  obtain ⟨before, profile, after, hfills⟩ :=
    advances_of_not_shadowed hstep (not_shadowed_of_nodup (h.names ▸ hdistinct) hstep)
  obtain ⟨profiles, hframe⟩ := h.frame
  -- the profiles have no part in what is built for a step
  have hbuilt : reached.stepCertificate step = cluster.stepCertificate step := by
    rw [hframe]
    cases step <;> rfl
  have hsecret : reached.stepSecret step = (cluster.stepCertificate step).spec.secretName := by
    rw [← hbuilt]
    cases step <;> rfl
  refine ⟨hstep, hbuilt, cluster.certifies_stepCertificate step, ?_, ?_⟩
  · refine ⟨before, profile, after, hfills, ?_⟩
    rw [hadvanced, hfills.toRecords.stamped_eq, hsecret]
  · rintro pass rfl
    rw [Pass.issueStage, hstep, hadvanced, ← hbuilt]

/-- Where profiles have names of their own, the steps of a cluster are the pieces that its profiles
lack, in their order: the step with a number is the piece with that number. After the last one
nothing is pending, and the cluster does not change any more. -/
theorem steps_follow_lacking (hdistinct : (cluster.spec.sslProfiles.map (·.name)).Nodup) :
    (∀ count (hcount : count < cluster.lacking.length),
      cluster.Takes (advanced^[count] cluster) cluster.lacking[count]
        (cluster.stepCertificate cluster.lacking[count])) ∧
    ∀ count, cluster.lacking.length ≤ count →
      (advanced^[count] cluster).pendingStep = none ∧
      advanced^[count] cluster = advanced^[cluster.lacking.length] cluster ∧
      ∀ pass : Pass, pass.cluster = advanced^[count] cluster → pass.issueStage = return none := by
  have hpending (count : Nat) :
      (advanced^[count] cluster).pendingStep = cluster.lacking[count]? := by
    rw [← head?_lacking, (reaches_iterate hdistinct count).lacking, List.head?_drop]
  have hcomplete (count : Nat) (hcount : cluster.lacking.length ≤ count) :
      (advanced^[count] cluster).pendingStep = none := by
    rw [hpending, List.getElem?_eq_none hcount]
  refine ⟨fun count hcount => ?_, fun count hcount => ⟨hcomplete count hcount, ?_, ?_⟩⟩
  · refine (reaches_iterate hdistinct count).takes hdistinct ?_
    rw [hpending, List.getElem?_eq_getElem hcount]
  · induction hcount with
    | refl => rfl
    | @step count hcount ih =>
        rw [Function.iterate_succ_apply', advanced_of_complete (hcomplete count hcount), ih]
  · intro pass hpass
    rw [Pass.issueStage, hpass, hcomplete count hcount]

/-- A cluster of which one profile has a certificate but no authority for its clients, and another
lacks both. -/
def issuingCluster : Interconnect := withTls [
  { name := "default", credentials := some "own", requireClientCerts := true },
  { name := "mutual", requireClientCerts := true }]

theorem three_pieces_in_order :
    (issuingCluster.spec.sslProfiles.map (·.name)).Nodup ∧
      issuingCluster.lacking = [.caCert "default", .credentials "mutual", .caCert "mutual"] ∧
      (advanced^[2] issuingCluster).pendingStep = some (.caCert "mutual") ∧
      (advanced^[3] issuingCluster).pendingStep = none := by
  have hdistinct : (issuingCluster.spec.sslProfiles.map (·.name)).Nodup := by decide
  obtain ⟨hsteps, hrest⟩ := steps_follow_lacking hdistinct
  exact ⟨hdistinct, rfl, (hsteps 2 (by decide)).pending, (hrest 3 (by decide)).1⟩

end Interconnect

end RouterOperator
