import RouterOperator.Proofs.CertificateOrder
import RouterOperator.Proofs.Defaults
import RouterOperator.Proofs.TlsGate

/-!
# Missing material, found in three ways

Filling in defaults asks for certificates, the list of profiles that cannot be satisfied is what the
block reports, and the search for a pending step picks the next piece. Each of them goes through the
profiles for itself. On a specification that has its defaults they agree, so no pass looks for a
piece in vain or goes on without one: with certificates it gets no further than to the stages that
issue them, and without it blocks.
-/

namespace RouterOperator

namespace InterconnectSpec

variable {spec : InterconnectSpec}

/-- A step is for the first profile without its material, which is the first one that is listed as
lacking some: for its certificate if it names none, and else for the authority of its clients. -/
structure AsksFirst (spec : InterconnectSpec) (step : CertStep) (before : List SslProfile)
    (profile : SslProfile) (after : List SslProfile) : Prop where
  profiles : spec.sslProfiles = before ++ profile :: after
  settled : ∀ other ∈ before, other.HasMaterial
  lacking : ¬ profile.HasMaterial
  listed : spec.unsatisfiable.head? = some profile.name
  step : step = if profile.credentialsSecret = none then .credentials profile.name
    else .caCert profile.name

theorem unsatisfiable_ne_nil_iff :
    spec.unsatisfiable ≠ [] ↔ spec.sslProfiles.any (·.isIncomplete) = true := by
  rw [← List.isEmpty_eq_false_iff, unsatisfiable_isEmpty, Bool.not_eq_false']

theorem requestCert_iff (spec : InterconnectSpec) (certManager : Bool) :
    (spec.normalize certManager).requestCert = true ↔
      certManager = true ∧ (spec.normalize certManager).spec.unsatisfiable ≠ [] := by
  rw [requestCert_normalize, Bool.and_eq_true, and_comm, unsatisfiable_ne_nil_iff]

end InterconnectSpec

theorem SslProfile.eq_of_pendingStep {profile : SslProfile} {step : CertStep}
    (h : profile.pendingStep = some step) :
    step = if profile.credentialsSecret = none then .credentials profile.name
      else .caCert profile.name := by
  unfold pendingStep needsCredentials at h
  split at h
  next hnone =>
    cases h
    rw [if_pos (Option.isNone_iff_eq_none.mp hnone)]
  next hsome =>
    split at h
    · cases h
      rw [if_neg fun hnone => hsome (Option.isNone_iff_eq_none.mpr hnone)]
    · cases h

namespace Interconnect

variable {cluster : Interconnect} {step : CertStep}

theorem isSome_pendingStep_iff :
    cluster.pendingStep.isSome = true ↔ cluster.spec.unsatisfiable ≠ [] := by
  rw [isSome_pendingStep, InterconnectSpec.unsatisfiable_ne_nil_iff]

/-- The search by need stops where the list of incomplete profiles begins. -/
theorem asksFirst_of_pending (h : cluster.pendingStep = some step) :
    ∃ before profile after, cluster.spec.AsksFirst step before profile after := by
  obtain ⟨before, profile, after, hprofiles, hpending, hbefore⟩ :=
    List.findSome?_eq_some_iff.mp h
  have hlacking : profile.isIncomplete = true := by
    rw [← SslProfile.isSome_pendingStep, hpending]
    rfl
  have hsettled : ∀ other ∈ before, other.isIncomplete = false := fun other hother =>
    SslProfile.pendingStep_eq_none_iff.mp (hbefore other hother)
  refine ⟨before, profile, after, hprofiles, fun other hother => ?_, ?_, ?_, ?_⟩
  · exact SslProfile.hasMaterial_iff.mpr (hsettled other hother)
  · rw [SslProfile.hasMaterial_iff, hlacking]
    decide
  · have hnone : before.filter (·.isIncomplete) = [] := by
      rw [List.filter_eq_nil_iff]
      exact fun other hother => ne_true_of_eq_false (hsettled other hother)
    rw [InterconnectSpec.unsatisfiable, hprofiles, List.filter_append, hnone, List.nil_append,
      List.filter_cons_of_pos hlacking]
    rfl
  · exact SslProfile.eq_of_pendingStep hpending

end Interconnect

/-- An outcome other than the block. -/
def Outcome.IsOpen (outcome : Outcome) : Prop := ∀ reason, outcome ≠ .blocked reason

theorem Outcome.isOpen_of_requeue {outcome : Outcome} (h : outcome.requeue = true) :
    outcome.IsOpen := by
  rintro reason rfl
  cases h

namespace Pass

open Program

variable {pass : Pass}

/-- A pass reports the block for the profiles that are listed as lacking something, and does nothing
else. -/
def Blocks (pass : Pass) : Prop :=
  pass.program = pass.block (blockedReason pass.cluster.spec.unsatisfiable)

/-- Where a piece is pending, the certificate stages end every pass that comes to them. -/
theorem certificateStages_end {step : CertStep} (pending : pass.cluster.pendingStep = some step)
    {σ : Type} (runner : Runner σ) (state : σ) :
    ((firstSome pass.certificateStages).run runner state).1 ≠ .ok none := by
  intro hrun
  have hmeets := meets_certificateStages pending (List.forall_mem_nil _) []
  rw [List.nil_append, List.append_nil] at hmeets
  obtain ⟨hsome, -⟩ := hmeets.run_promised hrun
  cases hsome

theorem isOpen_writeStatus (pass : Pass) (status : InterconnectStatus) :
    (pass.writeStatus status).Meets pass.MayCall Outcome.IsOpen :=
  ⟨.status status, fun _ => Outcome.isOpen_of_requeue rfl⟩

theorem isOpen_walk (ready : pass.cluster.spec.Ready) :
    (pass.walk false).Meets pass.MayCall Outcome.IsOpen := by
  refine (meets_stages ready).bind fun result hresult => ?_
  cases result with
  | some outcome => exact Outcome.isOpen_of_requeue (onlyChanges_some.mp hresult)
  | none =>
      refine Meets.andThen trivial fun _ => ?_
      refine Meets.andThen ⟨.listPods ready, fun _ => trivial⟩ fun pods => ?_
      dsimp only
      split
      · exact fun _ h => nomatch h
      · exact isOpen_writeStatus pass _

/-- A pass over a cluster that it sees for the first time, that has not its defaults or that can be
satisfied does not report the block. -/
theorem isOpen_program (h : ¬ (pass.status.revNumber ≠ "" ∧ pass.cluster.spec.HasDefaults ∧
      ¬ pass.cluster.spec.Satisfiable pass.settings)) :
    pass.program.Meets pass.MayCall Outcome.IsOpen := by
  by_cases hnew : pass.status.revNumber = ""
  · rw [program_of_new hnew]
    exact isOpen_writeStatus pass _
  · by_cases defaults : pass.cluster.spec.HasDefaults
    · have hopen : pass.cluster.spec.Satisfiable pass.settings :=
        not_not.mp fun hlacking => h ⟨hnew, defaults, hlacking⟩
      rw [program_of_defaults hnew defaults]
      by_cases hphase : pass.status.phase = .failed
      · rw [afterDefaults_of_failed hopen hphase]
        exact isOpen_writeStatus pass _
      · rw [afterDefaults_of_open hopen hphase]
        cases hlacking : pass.cluster.spec.sslProfiles.any (·.isIncomplete) with
        | true =>
            rw [hopen.certManager hlacking]
            exact (meets_walk_of_lacking hlacking).imp (fun _ h => h)
              fun _ => Outcome.isOpen_of_requeue
        | false => exact isOpen_walk (defaults.ready hlacking)
    · rw [program_of_lacking hnew defaults]
      exact (meets_persistSpec pass _).andThen fun _ => Outcome.isOpen_of_requeue rfl

/-- Unless a call fails or the deadline is exceeded, the block is reported. -/
theorem run_block (pass : Pass) (reason : String) :
    ((pass.block reason).run (accessOnly pass.cluster) ()).1 = .ok (.blocked reason) := by
  unfold block
  split <;> rfl

theorem blocks_iff : pass.Blocks ↔ pass.status.revNumber ≠ "" ∧ pass.cluster.spec.HasDefaults ∧
    ¬ pass.cluster.spec.Satisfiable pass.settings := by
  refine ⟨fun hblocks => ?_, fun ⟨touched, defaults, lacking⟩ => ?_⟩
  · by_contra hopen
    have hmeets := isOpen_program hopen
    rw [hblocks] at hmeets
    exact hmeets.run_promised (run_block pass _) _ rfl
  · exact program_of_blocked touched defaults lacking

/-- The block is reported by no other pass. -/
theorem blocks_of_blocked {σ : Type} {runner : Runner σ} {state : σ} {reason : String}
    (h : (pass.program.run runner state).1 = .ok (.blocked reason)) : pass.Blocks := by
  by_contra hopen
  rw [blocks_iff] at hopen
  exact (isOpen_program hopen).run_promised h reason rfl

end Pass

/-- On a specification with its defaults, certificates are asked for exactly when they can be issued
and some profile is listed as lacking something, and a step is pending exactly when some profile is
listed, namely the step of the first one. So where certificates are asked for, the stages that issue
them never let a pass through, and a pass blocks exactly when a step is pending and no certificates
can be issued. -/
theorem missing_material_agrees (spec : InterconnectSpec) (certManager : Bool) :
    ((spec.normalize certManager).requestCert = true ↔
      certManager = true ∧ (spec.normalize certManager).spec.unsatisfiable ≠ []) ∧
    ∀ cluster : Interconnect, cluster.spec = (spec.normalize certManager).spec →
      (cluster.pendingStep.isSome = true ↔ cluster.spec.unsatisfiable ≠ []) ∧
      (∀ step, cluster.pendingStep = some step →
        ∃ before profile after, cluster.spec.AsksFirst step before profile after) ∧
      ∀ pass : Pass, pass.cluster = cluster →
        pass.settings.capabilities.certManager = certManager → pass.status.revNumber ≠ "" →
        ((spec.normalize certManager).requestCert = true →
          ∀ (σ : Type) (runner : Runner σ) (state : σ),
            ((Program.firstSome pass.certificateStages).run runner state).1 ≠ .ok none) ∧
        (pass.Blocks ↔ certManager = false ∧ cluster.pendingStep.isSome = true) ∧
        ∀ (σ : Type) (runner : Runner σ) (state : σ) (reason : String),
          (pass.program.run runner state).1 = .ok (.blocked reason) → pass.Blocks := by
  have hrequest := spec.requestCert_iff certManager
  refine ⟨hrequest, fun cluster hspec => ⟨Interconnect.isSome_pendingStep_iff,
    fun step => Interconnect.asksFirst_of_pending, ?_⟩⟩
  rintro pass rfl hcapability touched
  refine ⟨fun hasked σ runner state => ?_, ?_, fun σ runner state reason =>
    Pass.blocks_of_blocked⟩
  · have hlisted := (hrequest.mp hasked).2
    rw [← hspec, ← Interconnect.isSome_pendingStep_iff, Option.isSome_iff_exists] at hlisted
    obtain ⟨step, pending⟩ := hlisted
    exact Pass.certificateStages_end pending runner state
  · have defaults : pass.cluster.spec.HasDefaults :=
      hspec ▸ spec.hasDefaults_normalize certManager
    rw [Pass.blocks_iff, InterconnectSpec.not_satisfiable_iff, hcapability,
      Interconnect.isSome_pendingStep]
    exact ⟨fun h => h.2.2, fun h => ⟨touched, defaults, h⟩⟩

/-- A pass over a cluster of which the first profile lacks an authority for its clients. -/
def issuingPass (certManager : Bool) : Pass where
  cluster := { Interconnect.issuingCluster with
    spec := (Interconnect.issuingCluster.spec.normalize certManager).spec }
  ns := "msg"
  settings := { capabilities := { certManager } }
  now := default
  status := { revNumber := "3" }

theorem missing_authority_noticed :
    (Interconnect.issuingCluster.spec.normalize true).requestCert = true ∧
      (issuingPass true).cluster.pendingStep = some (.caCert "default") ∧
      (∃ before profile after,
        (issuingPass true).cluster.spec.AsksFirst (.caCert "default") before profile after) ∧
      (∀ state, ((Program.firstSome (issuingPass true).certificateStages).run
        (accessOnly (issuingPass true).cluster) state).1 ≠ .ok none) ∧
      (∃ reason, ((issuingPass false).program.run (accessOnly (issuingPass false).cluster) ()).1 =
        .ok (.blocked reason)) ∧
      (issuingPass false).Blocks := by
  have hpending (certManager : Bool) :
      (issuingPass certManager).cluster.pendingStep = some (.caCert "default") := by
    cases certManager <;> rfl
  obtain ⟨-, hissuing⟩ := missing_material_agrees Interconnect.issuingCluster.spec true
  obtain ⟨-, hfirst, hpass⟩ := hissuing (issuingPass true).cluster rfl
  have hasked : (Interconnect.issuingCluster.spec.normalize true).requestCert = true := rfl
  obtain ⟨hends, -⟩ := hpass (issuingPass true) rfl rfl (by decide)
  obtain ⟨-, hblocking⟩ := missing_material_agrees Interconnect.issuingCluster.spec false
  obtain ⟨-, -, hpass'⟩ := hblocking (issuingPass false).cluster rfl
  obtain ⟨-, -, hreported⟩ := hpass' (issuingPass false) rfl rfl (by decide)
  have hrun : ((issuingPass false).program.run (accessOnly (issuingPass false).cluster) ()).1 =
      .ok (.blocked (Pass.blockedReason ["default", "mutual"])) := rfl
  exact ⟨hasked, hpending true, hfirst _ (hpending true), fun state => hends hasked _ _ state,
    ⟨_, hrun⟩, hreported _ _ _ _ hrun⟩

end RouterOperator
