import Mathlib.Data.List.Nodup
import Mathlib.Logic.Function.Iterate
import RouterOperator.Proofs.Certificates

/-!
# What a certificate step does to the profiles

A step is found by need, at the first profile that lacks a piece, and recorded by name, at the first
profile of that name. The two are the same profile unless a complete one of that name comes earlier.
Then the secret of the complete profile is written over and the other still lacks its own, so the
step is pending again, and no number of steps gets past it.
-/

namespace RouterOperator

namespace SslProfile

variable {profile : SslProfile} {step : CertStep} {secret : String}

/-- The secret that a profile has where a step would record one. -/
def piece (profile : SslProfile) : CertStep → Option String
  | .credentials _ => profile.credentialsSecret
  | .caCert _ => profile.caSecret

theorem piece_of_pendingStep (h : profile.pendingStep = some step) : profile.piece step = none := by
  unfold pendingStep at h
  split at h
  next hlacks =>
    cases h
    exact Option.isNone_iff_eq_none.mp hlacks
  · split at h
    next hlacks =>
      cases h
      rw [needsCa, Bool.and_eq_true] at hlacks
      exact Option.isNone_iff_eq_none.mp hlacks.2
    · cases h

theorem piece_stamped (hsecret : secret ≠ "") :
    (profile.stamped step secret).piece step = some secret := by
  cases step <;> exact Text.given_some_of_ne hsecret

/-- Where the other piece of the profile would be recorded, nothing changes. -/
theorem piece_stamped_of_ne {place : CertStep} (hprofile : place.profile = step.profile)
    (hplace : place ≠ step) : (profile.stamped step secret).piece place = profile.piece place := by
  cases step with
  | credentials name =>
      cases place with
      | credentials other => exact absurd (congrArg CertStep.credentials hprofile) hplace
      | caCert other => rfl
  | caCert name =>
      cases place with
      | credentials other => rfl
      | caCert other => exact absurd (congrArg CertStep.caCert hprofile) hplace

theorem pendingStep_eq_none_iff : profile.pendingStep = none ↔ profile.isIncomplete = false := by
  rw [← isSome_pendingStep, Option.isSome_eq_false_iff, Option.isNone_iff_eq_none]

/-- A complete profile is complete with another secret as well. -/
theorem isIncomplete_stamped (h : profile.isIncomplete = false) (step : CertStep)
    (hsecret : secret ≠ "") : (profile.stamped step secret).isIncomplete = false := by
  rw [isIncomplete, Bool.or_eq_false_iff] at h
  have hgiven := Text.given_some_of_ne hsecret
  cases step <;>
    simp_all [isIncomplete, stamped, needsCredentials, needsCa, credentialsSecret, caSecret]

end SslProfile

namespace Interconnect

variable {cluster : Interconnect} {step : CertStep}
  {before after : List SslProfile} {profile : SslProfile}

/-- The cluster with other profiles. -/
def withProfiles (cluster : Interconnect) (profiles : List SslProfile) : Interconnect :=
  { cluster with spec := { cluster.spec with sslProfiles := profiles } }

/-- A step records its secret in a profile: there and nowhere else. -/
structure Records (cluster : Interconnect) (step : CertStep) (before : List SslProfile)
    (profile : SslProfile) (after : List SslProfile) : Prop where
  profiles : cluster.spec.sslProfiles = before ++ profile :: after
  piece : (profile.stamped step (cluster.stepSecret step)).piece step =
    some (cluster.stepSecret step)
  stamp : cluster.stamp? step = some (cluster.withProfiles
    (before ++ profile.stamped step (cluster.stepSecret step) :: after))

/-- A step records its secret in the first profile that lacks a piece, for which it was chosen.
Nothing is written over, and one piece less is missing afterwards. -/
structure Fills (cluster : Interconnect) (step : CertStep) (before : List SslProfile)
    (profile : SslProfile) (after : List SslProfile) : Prop
    extends cluster.Records step before profile after where
  first : ∀ other ∈ before, other.pendingStep = none
  pending : profile.pendingStep = some step
  lacked : profile.piece step = none
  missing : (cluster.stamped step).spec.missing + 1 = cluster.spec.missing

/-- A step records its secret in a profile that is complete. As much as before is missing
afterwards. -/
structure Misplaces (cluster : Interconnect) (step : CertStep) (before : List SslProfile)
    (profile : SslProfile) (after : List SslProfile) : Prop
    extends cluster.Records step before profile after where
  name : profile.name = step.profile
  complete : profile.isIncomplete = false
  missing : (cluster.stamped step).spec.missing = cluster.spec.missing

/-- A step gives a profile what it lacks and does no harm. -/
def Advances (cluster : Interconnect) (step : CertStep) : Prop :=
  ∃ before profile after, cluster.Fills step before profile after

/-- A step goes to a profile that needs nothing, and is pending however often it has been taken. -/
def Stalls (cluster : Interconnect) (step : CertStep) : Prop :=
  (∃ before profile after, cluster.Misplaces step before profile after) ∧
    ∀ count, ((fun reached => reached.stamped step)^[count] cluster).pendingStep = some step

/-- A step records its secret in the first profile of its name. -/
theorem records_first (hprofiles : cluster.spec.sslProfiles = before ++ profile :: after)
    (hbefore : ∀ other ∈ before, other.name ≠ step.profile)
    (hname : profile.name = step.profile) : cluster.Records step before profile after where
  profiles := hprofiles
  piece := SslProfile.piece_stamped (cluster.stepSecret_ne_empty step)
  stamp := by
    rw [stamp?, hprofiles, stampFirst_append hbefore hname]
    rfl

theorem Records.stamped_eq (h : cluster.Records step before profile after) :
    cluster.stamped step = cluster.withProfiles
      (before ++ profile.stamped step (cluster.stepSecret step) :: after) := by
  rw [stamped, h.stamp, Option.getD_some]

theorem Records.missing (h : cluster.Records step before profile after) :
    (cluster.stamped step).spec.missing + profile.missing =
      cluster.spec.missing + (profile.stamped step (cluster.stepSecret step)).missing := by
  rw [h.stamped_eq, InterconnectSpec.missing, InterconnectSpec.missing, h.profiles]
  simp only [withProfiles, SslProfile.missingIn_append, SslProfile.missingIn_cons]
  omega

/-- The first profile of the name that a step is for is complete. -/
def Shadowed (cluster : Interconnect) (step : CertStep) : Prop :=
  ∃ before profile after, cluster.spec.sslProfiles = before ++ profile :: after ∧
    (∀ other ∈ before, other.name ≠ step.profile) ∧ profile.name = step.profile ∧
    profile.isIncomplete = false

/-- A shadowed step leaves all as it was, but for the secret of a complete profile. -/
theorem Shadowed.stamped (h : cluster.Shadowed step) :
    (cluster.stamped step).Shadowed step ∧
      (cluster.stamped step).pendingStep = cluster.pendingStep := by
  obtain ⟨before, profile, after, hprofiles, hbefore, hname, hcomplete⟩ := h
  have hstamped := SslProfile.isIncomplete_stamped hcomplete step (cluster.stepSecret_ne_empty step)
  rw [(records_first hprofiles hbefore hname).stamped_eq]
  refine ⟨⟨before, _, after, rfl, hbefore, by rw [SslProfile.name_stamped, hname], hstamped⟩, ?_⟩
  rw [pendingStep, pendingStep, hprofiles, withProfiles]
  rw [← SslProfile.pendingStep_eq_none_iff] at hcomplete hstamped
  simp only [List.findSome?_append, List.findSome?_cons, hcomplete, hstamped]

theorem Shadowed.iterate (h : cluster.Shadowed step) (count : Nat) :
    ((fun reached => reached.stamped step)^[count] cluster).Shadowed step ∧
      ((fun reached => reached.stamped step)^[count] cluster).pendingStep =
        cluster.pendingStep := by
  induction count with
  | zero => exact ⟨h, rfl⟩
  | succ count ih =>
      obtain ⟨hshadowed, hpending⟩ := ih
      rw [Function.iterate_succ_apply']
      exact ⟨hshadowed.stamped.1, hshadowed.stamped.2.trans hpending⟩

theorem Shadowed.stalls (h : cluster.Shadowed step) (hstep : cluster.pendingStep = some step) :
    cluster.Stalls step := by
  refine ⟨?_, fun count => (h.iterate count).2.trans hstep⟩
  obtain ⟨before, profile, after, hprofiles, hbefore, hname, hcomplete⟩ := h
  have hrecords := records_first hprofiles hbefore hname
  refine ⟨before, profile, after, hrecords, hname, hcomplete, ?_⟩
  have hmissing := hrecords.missing
  have hstamped := SslProfile.isIncomplete_stamped hcomplete step (cluster.stepSecret_ne_empty step)
  rw [profile.missing_eq_zero_iff.mpr hcomplete,
    (SslProfile.missing_eq_zero_iff _).mpr hstamped] at hmissing
  exact hmissing

/-- The search for a step stops at the first profile of its name, unless that one is complete. -/
theorem advances_of_not_shadowed (hstep : cluster.pendingStep = some step)
    (h : ¬ cluster.Shadowed step) : cluster.Advances step := by
  obtain ⟨before, profile, after, hprofiles, hpending, hbefore⟩ :=
    List.findSome?_eq_some_iff.mp hstep
  have hname := (SslProfile.profile_of_pendingStep hpending).symm
  have hothers : ∀ other ∈ before, other.name ≠ step.profile := by
    intro other hother hsame
    obtain ⟨first, hfirst⟩ : ∃ first, before.find? (·.name = step.profile) = some first := by
      rw [← Option.isSome_iff_exists, List.find?_isSome]
      exact ⟨other, hother, decide_eq_true hsame⟩
    obtain ⟨hnamed, front, back, rfl, hfront⟩ := List.find?_eq_some_iff_append.mp hfirst
    refine h ⟨front, first, back ++ profile :: after, ?_, ?_, of_decide_eq_true hnamed, ?_⟩
    · rw [hprofiles, List.append_assoc, List.cons_append]
    · intro earlier hearlier
      simpa using hfront earlier hearlier
    · exact SslProfile.pendingStep_eq_none_iff.mp (hbefore first (by simp))
  have hrecords := records_first hprofiles hothers hname
  have hmissing := hrecords.missing
  have hless := SslProfile.missing_stamped hpending (cluster.stepSecret_ne_empty step)
  exact ⟨before, profile, after, hrecords, hbefore, hpending,
    SslProfile.piece_of_pendingStep hpending, by omega⟩

theorem not_shadowed_of_nodup (hdistinct : (cluster.spec.sslProfiles.map (·.name)).Nodup)
    (hstep : cluster.pendingStep = some step) : ¬ cluster.Shadowed step := by
  rintro ⟨before, profile, after, hprofiles, -, hname, hcomplete⟩
  obtain ⟨pending, hmem, hpending⟩ := List.exists_of_findSome?_eq_some hstep
  have hsame : profile = pending := by
    refine List.inj_on_of_nodup_map hdistinct ?_ hmem ?_
    · rw [hprofiles]
      exact List.mem_append_right _ List.mem_cons_self
    · rw [hname, SslProfile.profile_of_pendingStep hpending]
  rw [hsame, ← SslProfile.pendingStep_eq_none_iff, hpending] at hcomplete
  cases hcomplete

/-- A pending step is always recorded in one profile. It advances unless a complete profile with the
name of the pending one comes first, which takes two profiles of one name; then it stalls. -/
theorem pending_step_advances_iff (hstep : cluster.pendingStep = some step) :
    (∃ before profile after, cluster.Records step before profile after) ∧
    ((cluster.spec.sslProfiles.map (·.name)).Nodup → cluster.Advances step) ∧
    (cluster.Advances step ↔ ¬ cluster.Shadowed step) ∧
    (cluster.Shadowed step → cluster.Stalls step) := by
  have hadvances := advances_of_not_shadowed hstep
  have hstalls (h : cluster.Shadowed step) : cluster.Stalls step := h.stalls hstep
  refine ⟨?_, fun hdistinct => hadvances (not_shadowed_of_nodup hdistinct hstep), ⟨?_, hadvances⟩,
    hstalls⟩
  · by_cases hshadowed : cluster.Shadowed step
    · obtain ⟨⟨before, profile, after, hmisplaces⟩, -⟩ := hstalls hshadowed
      exact ⟨before, profile, after, hmisplaces.toRecords⟩
    · obtain ⟨before, profile, after, hfills⟩ := hadvances hshadowed
      exact ⟨before, profile, after, hfills.toRecords⟩
  · rintro ⟨_, _, _, hfills⟩ hshadowed
    obtain ⟨⟨_, _, _, hmisplaces⟩, -⟩ := hstalls hshadowed
    have hless := hfills.missing
    rw [hmisplaces.missing] at hless
    omega

/-- A cluster with some TLS profiles. -/
def withTls (profiles : List SslProfile) : Interconnect where
  metadata := { name := some "amq", ns := some "msg", uid := some "4c1f7a52" }
  spec := { sslProfiles := profiles }

/-- A cluster in which only the authority for the clients of the second profile is missing. -/
def mutualCluster : Interconnect := withTls [
  { name := "default", credentials := some "own" },
  { name := "mutual", credentials := some "leaf", requireClientCerts := true }]

theorem client_authority_advances :
    mutualCluster.pendingStep = some (.caCert "mutual") ∧
      mutualCluster.Advances (.caCert "mutual") :=
  ⟨rfl, (pending_step_advances_iff rfl).2.1 (by decide)⟩

/-- A cluster with two profiles of one name, of which the first has a certificate. -/
def namesakeCluster : Interconnect := withTls [
  { name := "default", credentials := some "own" },
  { name := "default" }]

/-- The certificate for the second profile goes into the first, in place of its own. -/
theorem namesake_loses_certificate :
    namesakeCluster.pendingStep = some (.credentials "default") ∧
      namesakeCluster.stamped (.credentials "default") = withTls [
        { name := "default", credentials := some "amq-default-tls" },
        { name := "default" }] ∧
      ¬ namesakeCluster.Advances (.credentials "default") := by
  refine ⟨rfl, rfl, ?_⟩
  rintro ⟨_, _, _, hfills⟩
  exact absurd hfills.missing (by decide)

end Interconnect

end RouterOperator
