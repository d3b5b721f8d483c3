import RouterOperator.Proofs.Normalize

/-!
# Defaults respect what is given

Filling in says what the user has left open and keeps all that the user has said. It reports a
change exactly when there is one, and once is enough: certificates that become available later, or
are no longer available, add no further defaults.
-/

namespace RouterOperator

/-- A plan that says all that a given one says. A size or a port of 0 says nothing. -/
structure DeploymentPlan.Completes (plan given : DeploymentPlan) : Prop where
  size : given.size ≠ 0 → plan.size = given.size
  livenessPort : given.livenessPort ≠ 0 → plan.livenessPort = given.livenessPort
  role : given.role ≠ none → plan.role = given.role
  placement : given.placement ≠ none → plan.placement = given.placement
  image : plan.image = given.image
  resources : plan.resources = given.resources
  issuer : plan.issuer = given.issuer

theorem DeploymentPlan.completes_withDefaults (plan : DeploymentPlan) :
    plan.withDefaults.Completes plan where
  size hsize := if_neg hsize
  livenessPort hport := if_neg hport
  role hrole := by
    obtain ⟨role, hrole⟩ := Option.ne_none_iff_exists'.mp hrole
    rw [withDefaults, roleOrInterior, hrole, Option.getD_some]
  placement hplacement := by
    obtain ⟨placement, hplacement⟩ := Option.ne_none_iff_exists'.mp hplacement
    rw [withDefaults, placementOrAny, hplacement, Option.getD_some]
  image := rfl
  resources := rfl
  issuer := rfl

namespace InterconnectSpec

/-- A specification that says all that a given one says. An empty list of listeners says nothing,
and a profile may come behind the given ones: the default profile, if no other has its name. -/
structure Completes (spec given : InterconnectSpec) : Prop where
  deploymentPlan : spec.deploymentPlan.Completes given.deploymentPlan
  listeners : given.listeners ≠ [] → spec.listeners = given.listeners
  interRouterListeners : given.interRouterListeners ≠ [] →
    spec.interRouterListeners = given.interRouterListeners
  edgeListeners : given.edgeListeners ≠ [] → spec.edgeListeners = given.edgeListeners
  sslProfiles : spec.sslProfiles = given.sslProfiles ∨
    (∀ profile ∈ given.sslProfiles, profile.name ≠ defaultProfile) ∧
      spec.sslProfiles = given.sslProfiles ++ [{ name := defaultProfile }]
  addresses : spec.addresses = given.addresses
  autoLinks : spec.autoLinks = given.autoLinks
  linkRoutes : spec.linkRoutes = given.linkRoutes
  connectors : spec.connectors = given.connectors
  interRouterConnectors : spec.interRouterConnectors = given.interRouterConnectors
  edgeConnectors : spec.edgeConnectors = given.edgeConnectors

variable (spec : InterconnectSpec) (certManager : Bool)

/-- Filling in changes the plan and the listeners, and then at most the profiles. -/
theorem normalize_spec_eq : (spec.normalize certManager).spec =
    { ({ spec with deploymentPlan := spec.deploymentPlan.withDefaults } :
        InterconnectSpec).withListeners certManager with
      sslProfiles := (spec.normalize certManager).spec.sslProfiles } := by
  simp only [normalize]
  split <;> rfl

theorem completes_normalize : (spec.normalize certManager).spec.Completes spec := by
  have hkept {listeners fallback : List Listener} {lacks : Bool}
      (hlacks : listeners ≠ [] → lacks = false) (hgiven : listeners ≠ []) :
      (if lacks = true then fallback else listeners) = listeners := by
    rw [hlacks hgiven]
    rfl
  rw [normalize_spec_eq]
  refine ⟨spec.deploymentPlan.completes_withDefaults, ?_, ?_, ?_, ?_, rfl, rfl, rfl, rfl, rfl, rfl⟩
  · exact hkept List.isEmpty_eq_false_iff.mpr
  · exact hkept fun hgiven => by rw [List.isEmpty_eq_false_iff.mpr hgiven, Bool.and_false]
  · exact hkept fun hgiven => by rw [List.isEmpty_eq_false_iff.mpr hgiven, Bool.and_false]
  · refine (spec.sslProfiles_normalize certManager).imp_right fun ⟨hlacks, hadded⟩ => ⟨?_, hadded⟩
    intro profile hprofile
    simpa using List.any_eq_false.mp hlacks profile hprofile

/-- Certificates are asked for exactly when they can be issued and a profile, perhaps the one that
was added, is incomplete. -/
theorem requestCert_normalize : (spec.normalize certManager).requestCert =
    ((spec.normalize certManager).spec.sslProfiles.any (·.isIncomplete) && certManager) := by
  simp only [normalize]
  split
  next hlacks =>
    have hadded : ({ name := defaultProfile } : SslProfile).isIncomplete = true := rfl
    simp [hlacks, hadded]
  next hhas => simp [hhas]

/-- Filling in is a closure: it keeps what is given, leaves nothing open, tells whether it changed
anything, and is done for good. -/
theorem normalize_is_closure :
    (spec.normalize certManager).spec.Completes spec ∧
    (spec.normalize certManager).spec.HasDefaults ∧
    ((spec.normalize certManager).changed = true ↔ (spec.normalize certManager).spec ≠ spec) ∧
    (∀ again, ((spec.normalize certManager).spec.normalize again).spec =
        (spec.normalize certManager).spec ∧
      ((spec.normalize certManager).spec.normalize again).changed = false) ∧
    ((spec.normalize certManager).spec.normalize certManager).requestCert =
      (spec.normalize certManager).requestCert := by
  have hdefaults := spec.hasDefaults_normalize certManager
  refine ⟨spec.completes_normalize certManager, hdefaults, ?_, fun again => ?_, ?_⟩
  · rw [Ne, normalize_spec_eq_iff, ← changed_normalize_eq_false_iff spec certManager,
      Bool.not_eq_false]
  · rw [hdefaults.normalize]
    exact ⟨rfl, rfl⟩
  · rw [hdefaults.normalize, requestCert_normalize]

end InterconnectSpec

end RouterOperator
