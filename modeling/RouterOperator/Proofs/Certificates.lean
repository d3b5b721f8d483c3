import RouterOperator.Interconnect.Defaults
import RouterOperator.Managed.Certificates

/-!
# Issuing what profiles lack

The pieces that profiles lack are counted, and every step takes one away: where profiles have names
of their own, the secret of a step goes into the profile that the step was chosen for and nowhere
else.
-/

namespace RouterOperator

namespace SslProfile

/-- The number of pieces that are still to be issued for a profile. -/
def missing (profile : SslProfile) : Nat := profile.needsCredentials.toNat + profile.needsCa.toNat

theorem isSome_pendingStep (profile : SslProfile) :
    profile.pendingStep.isSome = profile.isIncomplete := by
  unfold pendingStep isIncomplete
  cases profile.needsCredentials <;> cases profile.needsCa <;> rfl

theorem profile_of_pendingStep {profile : SslProfile} {step : CertStep}
    (h : profile.pendingStep = some step) : step.profile = profile.name := by
  unfold pendingStep at h
  split at h
  · cases h
    rfl
  · split at h
    · cases h
      rfl
    · cases h

theorem missing_le (profile : SslProfile) : profile.missing ≤ 2 := by
  have hcredentials := Bool.toNat_le profile.needsCredentials
  have hca := Bool.toNat_le profile.needsCa
  unfold missing
  omega

theorem missing_eq_zero_iff (profile : SslProfile) :
    profile.missing = 0 ↔ profile.isIncomplete = false := by
  unfold missing isIncomplete
  cases profile.needsCredentials <;> cases profile.needsCa <;> decide

/-- Nothing is to be issued exactly when the certificate is named, and the authority as well if
clients need certificates. -/
theorem isIncomplete_eq_false_iff (profile : SslProfile) :
    profile.isIncomplete = false ↔
      (∃ secret, secret ≠ "" ∧ profile.credentials = some secret) ∧
        (profile.requireClientCerts = true →
          ∃ secret, secret ≠ "" ∧ profile.caCert = some secret) := by
  have hgiven : ∀ text : Option String,
      (Text.given text).isNone = false ↔ ∃ secret, secret ≠ "" ∧ text = some secret := by
    intro text
    cases text with
    | none => simp
    | some secret => by_cases h : secret = "" <;> simp [Text.given, h]
  unfold isIncomplete needsCredentials needsCa credentialsSecret caSecret
  rw [Bool.or_eq_false_iff, hgiven]
  refine and_congr_right fun _ => ?_
  cases profile.requireClientCerts with
  | false => simp
  | true => rw [Bool.true_and, hgiven]; simp

@[simp] theorem name_stamped (profile : SslProfile) (step : CertStep) (secret : String) :
    (profile.stamped step secret).name = profile.name := by
  cases step <;> rfl

/-- The step of a profile takes away one piece that it lacks. -/
theorem missing_stamped {profile : SslProfile} {step : CertStep}
    (h : profile.pendingStep = some step) {secret : String} (hsecret : secret ≠ "") :
    (profile.stamped step secret).missing + 1 = profile.missing := by
  have hgiven : (Text.given (some secret)).isNone = false := by
    rw [Text.given_some_of_ne hsecret]
    rfl
  unfold pendingStep at h
  split at h
  next hlacks =>
    cases h
    have hcredentials :
        (profile.stamped (.credentials profile.name) secret).needsCredentials = false := hgiven
    have hca : (profile.stamped (.credentials profile.name) secret).needsCa = profile.needsCa := rfl
    rw [missing, missing, hcredentials, hca, hlacks, Bool.toNat_false, Bool.toNat_true]
    omega
  next hcomplete =>
    split at h
    next hlacks =>
      cases h
      have hcredentials : (profile.stamped (.caCert profile.name) secret).needsCredentials =
          profile.needsCredentials := rfl
      have hca : (profile.stamped (.caCert profile.name) secret).needsCa = false := by
        simp [stamped, needsCa, caSecret, hgiven]
      rw [missing, missing, hcredentials, hca, hlacks, Bool.toNat_false, Bool.toNat_true]
    · cases h

/-- The number of pieces that are still to be issued for a list of profiles. -/
def missingIn : List SslProfile → Nat
  | [] => 0
  | profile :: rest => profile.missing + missingIn rest

@[simp] theorem missingIn_cons (profile : SslProfile) (rest : List SslProfile) :
    missingIn (profile :: rest) = profile.missing + missingIn rest := rfl

theorem missingIn_append (before after : List SslProfile) :
    missingIn (before ++ after) = missingIn before + missingIn after := by
  induction before with
  | nil => exact (Nat.zero_add _).symm
  | cons profile rest ih =>
      rw [List.cons_append, missingIn_cons, missingIn_cons, ih, Nat.add_assoc]

theorem missingIn_le (profiles : List SslProfile) : missingIn profiles ≤ 2 * profiles.length := by
  induction profiles with
  | nil => exact Nat.le_refl 0
  | cons profile rest ih =>
      have hprofile := profile.missing_le
      rw [missingIn_cons, List.length_cons]
      omega

theorem missingIn_pos {profiles : List SslProfile} (h : profiles.any (·.isIncomplete) = true) :
    0 < missingIn profiles := by
  induction profiles with
  | nil => cases h
  | cons profile rest ih =>
      rw [List.any_cons, Bool.or_eq_true] at h
      rw [missingIn_cons]
      rcases h with hfirst | hrest
      · have hpos : profile.missing ≠ 0 := by
          intro hzero
          rw [profile.missing_eq_zero_iff.mp hzero] at hfirst
          cases hfirst
        omega
      · have hpos := ih hrest
        omega

end SslProfile

namespace InterconnectSpec

/-- The number of pieces that are still to be issued for a specification. -/
def missing (spec : InterconnectSpec) : Nat := SslProfile.missingIn spec.sslProfiles

theorem unsatisfiable_isEmpty (spec : InterconnectSpec) :
    spec.unsatisfiable.isEmpty = !spec.sslProfiles.any (·.isIncomplete) := by
  rw [unsatisfiable, List.isEmpty_map, Bool.eq_iff_iff, List.isEmpty_iff, List.filter_eq_nil_iff,
    Bool.not_eq_true', List.any_eq_false]

end InterconnectSpec

namespace Interconnect

variable (cluster : Interconnect)

theorem isSome_pendingStep :
    cluster.pendingStep.isSome = cluster.spec.sslProfiles.any (·.isIncomplete) := by
  rw [pendingStep, List.isSome_findSome?]
  simp only [SslProfile.isSome_pendingStep]

theorem exists_pendingStep {cluster : Interconnect}
    (h : cluster.spec.sslProfiles.any (·.isIncomplete) = true) :
    ∃ step, cluster.pendingStep = some step := by
  rw [← Option.isSome_iff_exists, isSome_pendingStep, h]

theorem stepSecret_ne_empty (step : CertStep) : cluster.stepSecret step ≠ "" := by
  cases step with
  | credentials profile =>
      change cluster.name ++ "-" ++ profile ++ "-tls" ≠ ""
      simp
  | caCert profile =>
      change cluster.name ++ "-" ++ profile ++ "-ca" ≠ ""
      simp

/-- A secret goes into the first profile of the name that its step is for. -/
theorem stampFirst_append {before after : List SslProfile} {profile : SslProfile} {step : CertStep}
    {secret : String} (hbefore : ∀ other ∈ before, other.name ≠ step.profile)
    (hname : profile.name = step.profile) :
    stampFirst step secret (before ++ profile :: after) =
      some (before ++ profile.stamped step secret :: after) := by
  induction before with
  | nil => exact if_pos hname
  | cons other rest ih =>
      obtain ⟨hother, hrest⟩ := List.forall_mem_cons.mp hbefore
      rw [List.cons_append, stampFirst, if_neg hother, ih hrest]
      rfl

/-- Where names are distinct, the profile that lacks a piece first is the one that gets it. -/
theorem stampFirst_of_pending {profiles : List SslProfile} {step : CertStep}
    (hdistinct : (profiles.map (·.name)).Nodup)
    (hstep : profiles.findSome? SslProfile.pendingStep = some step)
    {secret : String} (hsecret : secret ≠ "") :
    ∃ stamped, stampFirst step secret profiles = some stamped ∧
      stamped.map (·.name) = profiles.map (·.name) ∧
      SslProfile.missingIn stamped + 1 = SslProfile.missingIn profiles := by
  obtain ⟨before, profile, after, rfl, hpending, -⟩ := List.findSome?_eq_some_iff.mp hstep
  have hmissing := SslProfile.missing_stamped hpending hsecret
  -- the profiles before it have other names, so the search by name stops there as well
  have hbefore : ∀ other ∈ before, other.name ≠ step.profile := by
    rw [List.map_append, List.map_cons, List.nodup_append] at hdistinct
    rw [SslProfile.profile_of_pendingStep hpending]
    intro other hother
    exact hdistinct.2.2 _ (List.mem_map_of_mem hother) _ List.mem_cons_self
  refine ⟨_, stampFirst_append hbefore (SslProfile.profile_of_pendingStep hpending).symm, ?_, ?_⟩
  · simp
  · simp only [SslProfile.missingIn_append, SslProfile.missingIn_cons]
    omega

/-- Recording a step changes the specification alone. -/
theorem stamped_eq (step : CertStep) : ∃ spec, cluster.stamped step = { cluster with spec } := by
  cases h : cluster.stamp? step with
  | none => exact ⟨cluster.spec, by rw [stamped, h]; rfl⟩
  | some result =>
      obtain ⟨profiles, -, rfl⟩ := Option.map_eq_some_iff.mp h
      exact ⟨_, by rw [stamped, h]; rfl⟩

/-- Recording a step takes one missing piece away and changes nothing but the profiles, which keep
their names. -/
theorem stamped_of_pending {cluster : Interconnect} {step : CertStep}
    (hdistinct : (cluster.spec.sslProfiles.map (·.name)).Nodup)
    (hstep : cluster.pendingStep = some step) :
    ∃ profiles, cluster.stamped step =
        { cluster with spec := { cluster.spec with sslProfiles := profiles } } ∧
      profiles.map (·.name) = cluster.spec.sslProfiles.map (·.name) ∧
      SslProfile.missingIn profiles + 1 = cluster.spec.missing := by
  obtain ⟨profiles, hstamped, hnames, hmissing⟩ :=
    stampFirst_of_pending hdistinct hstep (cluster.stepSecret_ne_empty step)
  refine ⟨profiles, ?_, hnames, hmissing⟩
  rw [stamped, stamp?, hstamped]
  rfl

end Interconnect

end RouterOperator
