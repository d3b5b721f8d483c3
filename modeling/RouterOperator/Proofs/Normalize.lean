import RouterOperator.Interconnect.Defaults

/-!
# Filling in defaults

A specification has its defaults when nothing is left to fill in. Filling in leads there from every
specification, and there it changes nothing, whatever can be issued. So having the defaults, being
unchanged and being a fixed point are one and the same.
-/

namespace RouterOperator

namespace DeploymentPlan

theorem withDefaults_of_not_lacks {plan : DeploymentPlan} (h : plan.lacksDefaults = false) :
    plan.withDefaults = plan := by
  simp only [lacksDefaults, Bool.or_eq_false_iff, decide_eq_false_iff_not] at h
  obtain ⟨⟨⟨hsize, hrole⟩, hplacement⟩, hport⟩ := h
  obtain ⟨image, size, role, placement, resources, issuer, port⟩ := plan
  cases role with
  | none => simp at hrole
  | some role =>
      cases placement with
      | none => simp at hplacement
      | some placement =>
          simp only at hsize hport
          simp [withDefaults, roleOrInterior, placementOrAny, hsize, hport]

@[simp] theorem lacksDefaults_withDefaults (plan : DeploymentPlan) :
    plan.withDefaults.lacksDefaults = false := by
  have hsize : (if plan.size = 0 then 1 else plan.size) ≠ 0 := by
    split
    · decide
    next h => exact h
  have hport : (if plan.livenessPort = 0 then defaultLivenessPort else plan.livenessPort) ≠ 0 := by
    split
    · decide
    next h => exact h
  simp [lacksDefaults, withDefaults, hsize, hport]

end DeploymentPlan

namespace InterconnectSpec

/-- Nothing is left to fill in. -/
structure HasDefaults (spec : InterconnectSpec) : Prop where
  plan : spec.deploymentPlan.lacksDefaults = false
  listeners : spec.lacksListeners = false
  profile : spec.lacksDefaultProfile = false

theorem withListeners_of_not_lacks {spec : InterconnectSpec} (h : spec.lacksListeners = false)
    (certManager : Bool) : spec.withListeners certManager = spec := by
  simp only [lacksListeners, Bool.or_eq_false_iff, Bool.and_eq_false_iff] at h
  obtain ⟨hclients, hrole⟩ := h
  have hinter : (decide (spec.deploymentPlan.roleOrInterior = .interior) &&
      spec.interRouterListeners.isEmpty) = false := by
    rcases hrole with hrole | hrole
    · simp [hrole]
    · simp [hrole.1]
  have hedge : (decide (spec.deploymentPlan.roleOrInterior = .interior) &&
      spec.edgeListeners.isEmpty) = false := by
    rcases hrole with hrole | hrole
    · simp [hrole]
    · simp [hrole.2]
  simp only [withListeners, hclients, hinter, hedge, Bool.false_eq_true, if_false]

@[simp] theorem lacksListeners_withListeners (spec : InterconnectSpec) (certManager : Bool) :
    (spec.withListeners certManager).lacksListeners = false := by
  have hclients : (spec.withListeners certManager).listeners.isEmpty = false := by
    simp only [withListeners]
    split
    · simp [defaultListeners]
    next h => simpa using h
  by_cases hrole : spec.deploymentPlan.roleOrInterior = .interior
  · have hinter : (spec.withListeners certManager).interRouterListeners.isEmpty = false := by
      simp only [withListeners, hrole, decide_true, Bool.true_and]
      split
      · rfl
      next h => simpa using h
    have hedge : (spec.withListeners certManager).edgeListeners.isEmpty = false := by
      simp only [withListeners, hrole, decide_true, Bool.true_and]
      split
      · rfl
      next h => simpa using h
    simp [lacksListeners, hclients, hinter, hedge]
  · have hplan : (spec.withListeners certManager).deploymentPlan = spec.deploymentPlan := rfl
    simp [lacksListeners, hclients, hplan, hrole]

theorem hasDefaultProfile_append (profiles : List SslProfile) (spec : InterconnectSpec) :
    ({ spec with sslProfiles := profiles ++ [{ name := defaultProfile }] } :
      InterconnectSpec).hasDefaultProfile = true := by
  simp [hasDefaultProfile]

variable (spec : InterconnectSpec) (certManager : Bool)

/-- Filling in leaves nothing to fill in. -/
theorem hasDefaults_normalize : (spec.normalize certManager).spec.HasDefaults := by
  let planned := { spec with deploymentPlan := spec.deploymentPlan.withDefaults }
  let listening := planned.withListeners certManager
  have hplan : listening.deploymentPlan.lacksDefaults = false :=
    DeploymentPlan.lacksDefaults_withDefaults spec.deploymentPlan
  have hlisteners : listening.lacksListeners = false :=
    lacksListeners_withListeners planned certManager
  by_cases hprofile : listening.lacksDefaultProfile = true
  · have hspec : (spec.normalize certManager).spec = { listening with
        sslProfiles := listening.sslProfiles ++ [{ name := defaultProfile }] } := by
      simp only [normalize]
      exact if_pos hprofile
    rw [hspec]
    refine ⟨hplan, hlisteners, ?_⟩
    simp [lacksDefaultProfile, hasDefaultProfile_append]
  · have hspec : (spec.normalize certManager).spec = listening := by
      simp only [normalize]
      exact if_neg hprofile
    rw [hspec]
    exact ⟨hplan, hlisteners, by simpa using hprofile⟩

variable {spec} in
/-- Where nothing is left to fill in, certificates are asked for exactly when they can be issued and
some profile is incomplete. -/
theorem HasDefaults.normalize (h : spec.HasDefaults) (certManager : Bool) :
    spec.normalize certManager =
      ⟨spec, false, spec.sslProfiles.any (·.isIncomplete) && certManager⟩ := by
  have hplanned : ({ spec with deploymentPlan := spec.deploymentPlan.withDefaults } :
      InterconnectSpec) = spec := by
    rw [DeploymentPlan.withDefaults_of_not_lacks h.plan]
  have hlistening := withListeners_of_not_lacks h.listeners certManager
  simp [InterconnectSpec.normalize, hplanned, hlistening, h.plan, h.listeners, h.profile]

variable {spec} in
/-- Profiles matter for the defaults by their names alone. -/
theorem HasDefaults.withProfiles (h : spec.HasDefaults) {profiles : List SslProfile}
    (hnames : profiles.map (·.name) = spec.sslProfiles.map (·.name)) :
    ({ spec with sslProfiles := profiles } : InterconnectSpec).HasDefaults := by
  refine ⟨h.plan, h.listeners, ?_⟩
  have hany : ∀ given : List SslProfile, (given.any fun profile => profile.name = defaultProfile) =
      (given.map (·.name)).any (· = defaultProfile) := by
    intro given
    rw [List.any_map]
    rfl
  have hsame : ({ spec with sslProfiles := profiles } : InterconnectSpec).hasDefaultProfile =
      spec.hasDefaultProfile := by
    rw [hasDefaultProfile, hasDefaultProfile, hany, hany, hnames]
  rw [← h.profile, lacksDefaultProfile, lacksDefaultProfile, hsame]
  rfl

theorem changed_normalize_eq_false_iff :
    (spec.normalize certManager).changed = false ↔ spec.HasDefaults := by
  constructor
  · -- each part is checked after the ones before it are filled in, which they need not be
    intro h
    simp only [InterconnectSpec.normalize, Bool.or_eq_false_iff] at h
    obtain ⟨⟨hplan, hlisteners⟩, hprofile⟩ := h
    rw [DeploymentPlan.withDefaults_of_not_lacks hplan] at hlisteners hprofile
    rw [withListeners_of_not_lacks hlisteners] at hprofile
    exact ⟨hplan, hlisteners, hprofile⟩
  · intro h
    rw [h.normalize]

theorem normalize_spec_eq_iff :
    (spec.normalize certManager).spec = spec ↔ spec.HasDefaults := by
  constructor
  · intro h
    rw [← h]
    exact hasDefaults_normalize spec certManager
  · intro h
    rw [h.normalize]

/-- Filling in adds at most the default profile, and that only when no profile has its name. -/
theorem sslProfiles_normalize :
    (spec.normalize certManager).spec.sslProfiles = spec.sslProfiles ∨
      spec.hasDefaultProfile = false ∧
        (spec.normalize certManager).spec.sslProfiles =
          spec.sslProfiles ++ [{ name := defaultProfile }] := by
  simp only [normalize]
  split
  next hlacks =>
    refine Or.inr ⟨?_, rfl⟩
    simp only [lacksDefaultProfile, Bool.and_eq_true, Bool.not_eq_true'] at hlacks
    exact hlacks.2
  · exact Or.inl rfl

variable {spec} in
theorem nodup_names_normalize (h : (spec.sslProfiles.map (·.name)).Nodup) :
    ((spec.normalize certManager).spec.sslProfiles.map (·.name)).Nodup := by
  rcases spec.sslProfiles_normalize certManager with hsame | ⟨hlacks, hadded⟩
  · rwa [hsame]
  · rw [hadded, List.map_append, List.nodup_append]
    refine ⟨h, List.pairwise_singleton _ _, ?_⟩
    intro name hname other hother
    rw [List.map_singleton, List.mem_singleton] at hother
    obtain ⟨profile, hprofile, rfl⟩ := List.mem_map.mp hname
    rw [hother]
    have hother := List.any_eq_false.mp hlacks profile hprofile
    simpa using hother

end InterconnectSpec

end RouterOperator
