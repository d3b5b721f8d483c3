import RouterOperator.Proofs.CertificateSteps
import RouterOperator.Proofs.FailedPhase
import RouterOperator.Proofs.Footprint
import RouterOperator.Proofs.LostUpdate
import RouterOperator.Proofs.OneWorkload

/-!
# Leaf certificates

The certificate of a TLS profile is made once, for the listeners that are exposed with the profile
at that time, and no pass touches it afterwards. So what is stored under its name tells which hosts
were exposed when it was issued, and nothing of those that are exposed by now. A pass records the
secret of a profile only where the certificate is stored; a specification that names the secret
without it was written by hand.
-/

namespace RouterOperator

namespace Interconnect

variable {cluster : Interconnect} {profile : String} {step : CertStep}

/-- A certificate that the cluster is issued: that of its own authority, or what a profile lacks. -/
inductive IsIssued (cluster : Interconnect) : Certificate → Prop where
  | authority : cluster.IsIssued cluster.selfSignedCa
  | step (step : CertStep) : cluster.IsIssued (cluster.stepCertificate step)

/-- A profile has the secret that is generated for it. -/
def UsesGenerated (cluster : Interconnect) (profile : String) : Prop :=
  ∃ candidate ∈ cluster.spec.sslProfiles, candidate.name = profile ∧
    candidate.credentials = some (cluster.credentialsName profile)

instance (cluster : Interconnect) (profile : String) : Decidable (cluster.UsesGenerated profile) :=
  inferInstanceAs (Decidable (∃ candidate ∈ cluster.spec.sslProfiles, candidate.name = profile ∧
    candidate.credentials = some (cluster.credentialsName profile)))

theorem credentialsName_congr {other : Interconnect} (hname : cluster.name = other.name)
    (profile : String) : cluster.credentialsName profile = other.credentialsName profile := by
  rw [credentialsName, hname, credentialsName]

theorem UsesGenerated.congr {other : Interconnect} (h : cluster.UsesGenerated profile)
    (hspec : cluster.spec = other.spec) (hname : cluster.name = other.name) :
    other.UsesGenerated profile := by
  obtain ⟨candidate, hmem, hfor, hcredentials⟩ := h
  rw [credentialsName_congr hname] at hcredentials
  exact ⟨candidate, hspec ▸ hmem, hfor, hcredentials⟩

theorem IsIssued.exists_purpose {certificate : Certificate} (h : cluster.IsIssued certificate) :
    ∃ purpose, certificate = cluster.certificateFor purpose := by
  cases h with
  | authority => exact ⟨.authority, rfl⟩
  | step step => exact ⟨.step step, rfl⟩

/-- Of all that a cluster is issued, only the certificate of a profile has its name. -/
theorem IsIssued.eq_profileCertificate {certificate : Certificate}
    (h : cluster.IsIssued certificate)
    (hname : Kind.certificate.nameOf certificate = cluster.credentialsName profile) :
    certificate = cluster.profileCertificate profile := by
  obtain ⟨purpose, rfl⟩ := h.exists_purpose
  change Kind.certificate.nameOf (cluster.certificateFor purpose) =
    Kind.certificate.nameOf (cluster.certificateFor (.step (.credentials profile))) at hname
  obtain rfl := certificateName_eq_iff.mp hname
  rfl

theorem exposureHost_eq_iff {listener other : Listener} :
    cluster.exposureHost other = cluster.exposureHost listener ↔
      other.targetName = listener.targetName := by
  refine ⟨fun hsame => ?_, fun hsame => ?_⟩
  · change cluster.name ++ "-" ++ other.targetName ++ "." ++ cluster.space =
      cluster.name ++ "-" ++ listener.targetName ++ "." ++ cluster.space at hsame
    simpa using hsame
  · rw [exposureHost, exposureName, hsame]
    rfl

/-- Behind the name of the cluster stands a dash in the one and a dot in the other. -/
theorem exposureHost_ne_serviceHost (listener : Listener) :
    cluster.exposureHost listener ≠ cluster.serviceHost := by
  intro hsame
  change cluster.name ++ "-" ++ listener.targetName ++ "." ++ cluster.space =
    cluster.name ++ "." ++ cluster.space ++ ".svc.cluster.local" at hsame
  have hlists := congrArg String.toList hsame
  simp at hlists

theorem mem_exposedHosts_iff {listener : Listener} :
    cluster.exposureHost listener ∈ cluster.serviceHost :: cluster.exposedHosts profile ↔
      ∃ other, cluster.spec.Exposes other ∧ other.profile = some profile ∧
        other.targetName = listener.targetName := by
  rw [List.mem_cons, or_iff_right (exposureHost_ne_serviceHost listener), exposedHosts,
    List.mem_map]
  simp only [List.mem_filter, decide_eq_true_eq, and_assoc, exposureHost_eq_iff,
    InterconnectSpec.mem_exposedListeners_iff]

/-- What a profile is after a step was recorded: as it was, or with the secret if it has the name
that the step is for. -/
theorem mem_of_stampFirst {secret : String} {profiles stamped : List SslProfile}
    (h : stampFirst step secret profiles = some stamped) {candidate : SslProfile}
    (hmem : candidate ∈ stamped) :
    candidate ∈ profiles ∨
      ∃ original ∈ profiles, original.name = step.profile ∧
        candidate = original.stamped step secret := by
  induction profiles generalizing stamped with
  | nil => cases h
  | cons first rest ih =>
      rw [stampFirst] at h
      split at h
      next hname =>
        cases h
        rcases List.mem_cons.mp hmem with rfl | hrest
        · exact .inr ⟨first, List.mem_cons_self, hname, rfl⟩
        · exact .inl (List.mem_cons_of_mem _ hrest)
      next =>
        obtain ⟨others, hothers, rfl⟩ := Option.map_eq_some_iff.mp h
        rcases List.mem_cons.mp hmem with rfl | hrest
        · exact .inl List.mem_cons_self
        · refine (ih hothers hrest).imp (List.mem_cons_of_mem _) ?_
          rintro ⟨original, horiginal, hstamped⟩
          exact ⟨original, List.mem_cons_of_mem _ horiginal, hstamped⟩

/-- A profile has a secret where a step would record one. -/
def HasPiece (cluster : Interconnect) (step : CertStep) (secret : String) : Prop :=
  ∃ candidate ∈ cluster.spec.sslProfiles, candidate.name = step.profile ∧
    candidate.piece step = some secret

instance (cluster : Interconnect) (step : CertStep) (secret : String) :
    Decidable (cluster.HasPiece step secret) :=
  inferInstanceAs (Decidable (∃ candidate ∈ cluster.spec.sslProfiles,
    candidate.name = step.profile ∧ candidate.piece step = some secret))

/-- To record a step changes no place but its own, which gets the secret of the step. -/
theorem hasPiece_of_stamped {place : CertStep} {secret : String}
    (h : (cluster.stamped step).HasPiece place secret) :
    cluster.HasPiece place secret ∨ place = step ∧ secret = cluster.stepSecret step := by
  cases hstamp : cluster.stamp? step with
  | none =>
      rw [stamped, hstamp] at h
      exact .inl h
  | some result =>
      rw [stamped, hstamp] at h
      obtain ⟨profiles, hprofiles, rfl⟩ := Option.map_eq_some_iff.mp hstamp
      obtain ⟨candidate, hmem, hname, hpiece⟩ := h
      rcases mem_of_stampFirst hprofiles hmem with hkept | ⟨original, horiginal, hfor, rfl⟩
      · exact .inl ⟨candidate, hkept, hname, hpiece⟩
      · rw [SslProfile.name_stamped] at hname
        have hprofile : place.profile = step.profile := hname.symm.trans hfor
        by_cases hplace : place = step
        · subst hplace
          rw [SslProfile.piece_stamped (cluster.stepSecret_ne_empty place)] at hpiece
          exact .inr ⟨rfl, (Option.some.inj hpiece).symm⟩
        · -- the step is for the other piece of the profile
          refine .inl ⟨original, horiginal, hname, ?_⟩
          rwa [SslProfile.piece_stamped_of_ne hprofile hplace] at hpiece

theorem usesGenerated_iff_hasPiece : cluster.UsesGenerated profile ↔
    cluster.HasPiece (.credentials profile) (cluster.credentialsName profile) := by
  have hnamed : cluster.credentialsName profile ≠ "" :=
    cluster.stepSecret_ne_empty (.credentials profile)
  have hpiece (candidate : SslProfile) :
      candidate.credentials = some (cluster.credentialsName profile) ↔
        candidate.piece (.credentials profile) = some (cluster.credentialsName profile) := by
    rw [SslProfile.piece, SslProfile.credentialsSecret, Text.given_eq_some_iff, and_iff_left hnamed]
  simp only [UsesGenerated, HasPiece, CertStep.profile, hpiece]

/-- To record a step gives no profile its generated secret but the one that the step issues it
for. -/
theorem usesGenerated_of_stamped (h : (cluster.stamped step).UsesGenerated profile) :
    cluster.UsesGenerated profile ∨ step = .credentials profile := by
  obtain ⟨spec, hspec⟩ := cluster.stamped_eq step
  have hname : (cluster.stamped step).credentialsName profile =
      cluster.credentialsName profile := by
    rw [hspec]
    rfl
  rw [usesGenerated_iff_hasPiece, hname] at h
  rw [usesGenerated_iff_hasPiece]
  exact (hasPiece_of_stamped h).imp_right fun hplace => hplace.1.symm

/-- Nor does filling in defaults. -/
theorem usesGenerated_of_defaults {certManager : Bool}
    (h : ({ cluster with spec := (cluster.spec.normalize certManager).spec } :
      Interconnect).UsesGenerated profile) : cluster.UsesGenerated profile := by
  obtain ⟨candidate, hmem, hname, hsecret⟩ := h
  refine ⟨candidate, ?_, hname, hsecret⟩
  change candidate ∈ (cluster.spec.normalize certManager).spec.sslProfiles at hmem
  unfold InterconnectSpec.normalize at hmem
  dsimp only at hmem
  split at hmem
  · rcases List.mem_append.mp hmem with hgiven | hadded
    · exact hgiven
    · -- the profile that is added has no secret
      obtain rfl := List.mem_singleton.mp hadded
      cases hsecret
  · exact hmem

end Interconnect

/-- A goal asks for no certificate but one that a cluster is issued. -/
def Goal.AsksIssued (cluster : Interconnect) : Goal → Prop
  | .object .certificate certificate => cluster.IsIssued certificate
  | _ => True

/-- A call makes no certificate but one that a cluster is issued, and replaces none. -/
def StoreCall.OnlyIssues (cluster : Interconnect) : StoreCall → Prop
  | .create .certificate _ certificate => cluster.IsIssued certificate
  | .replace .certificate _ _ => False
  | _ => True

theorem Interconnect.asksIssued_of_checklist (cluster : Interconnect) (settings : Settings) :
    ∀ goal ∈ cluster.checklist settings, goal.AsksIssued cluster := by
  have hauthority : ∀ goal ∈ cluster.authorityGoals, goal.AsksIssued cluster := by
    unfold authorityGoals
    split
    · simpa [Goal.AsksIssued] using .authority
    · simp [Goal.AsksIssued]
  have hcertificates : ∀ goal ∈ cluster.certificateGoals settings, goal.AsksIssued cluster := by
    unfold certificateGoals
    split
    · split
      · simp
      next step pending =>
        simp only [List.forall_mem_append, List.forall_mem_singleton]
        exact ⟨hauthority, .step step⟩
    · simp
  have hexposure (listener : Listener) :
      (cluster.exposureGoal settings listener).AsksIssued cluster := by
    unfold exposureGoal
    split <;> trivial
  simp only [checklist, accessGoals, servingGoals, List.forall_mem_append, List.forall_mem_cons,
    List.not_mem_nil, false_imp_iff, implies_true, and_true, List.forall_mem_map]
  exact ⟨⟨⟨trivial, trivial, trivial⟩, hcertificates⟩, ⟨trivial, trivial, trivial⟩,
    fun listener _ => hexposure listener⟩

namespace Pass

variable {pass : Pass} {known : List Exchange} {moves : List Move} {outcome : Outcome}
  {kind : Kind} {desired : kind.Object}

theorem Selects.ne_certificate (h : pass.Selects known kind desired) : kind ≠ .certificate := by
  cases h <;> decide

theorem Action.onlyIssues {goal : Goal} (h : pass.Action known goal moves outcome)
    (hgoal : goal.AsksIssued pass.cluster) :
    ∀ move ∈ moves, move.request.OnlyIssues pass.cluster := by
  have hcreate {kind : Kind} {ns : String} {object : kind.Object} (hkind : kind ≠ .certificate) :
      (StoreCall.create kind ns object).OnlyIssues pass.cluster := by
    cases kind with
    | certificate => exact absurd rfl hkind
    | _ => trivial
  have hreplace {kind : Kind} {ns : String} {object : kind.Object} (hkind : kind ≠ .certificate) :
      (StoreCall.replace kind ns object).OnlyIssues pass.cluster := by
    cases kind with
    | certificate => exact absurd rfl hkind
    | _ => trivial
  cases h with
  | @create _ kind before desired =>
      refine List.forall_mem_singleton.mpr ?_
      cases kind with
      | certificate => exact hgoal
      | _ => trivial
  | update derived other drift =>
      refine List.forall_mem_singleton.mpr (hreplace ?_)
      rintro rfl
      cases drift
  | issue spec =>
      simp only [List.forall_mem_cons, List.not_mem_nil, false_imp_iff, implies_true, and_true]
      exact ⟨hgoal, trivial⟩
  | deploy selected =>
      simp only [List.forall_mem_cons, List.not_mem_nil, false_imp_iff, implies_true, and_true]
      exact ⟨hcreate selected.ne_certificate, trivial, trivial⟩
  | refresh selected =>
      exact List.forall_mem_singleton.mpr (hreplace selected.ne_certificate)
  | upgrade selected =>
      simp only [List.forall_mem_cons, List.not_mem_nil, false_imp_iff, implies_true, and_true]
      exact ⟨hreplace selected.ne_certificate, trivial⟩
  | resize selected =>
      simp only [List.forall_mem_cons, List.not_mem_nil, false_imp_iff, implies_true, and_true]
      exact ⟨hreplace selected.ne_certificate, trivial, trivial⟩

theorem Decision.onlyIssues (h : pass.Decision known moves outcome) :
    ∀ move ∈ moves, move.request.OnlyIssues pass.cluster := by
  cases h with
  | act walks listed shown action =>
      exact action.onlyIssues (pass.cluster.asksIssued_of_checklist _ _
        (listed ▸ List.mem_append_right _ List.mem_cons_self))
  | blocked | idle => simp
  | _ => simp [statusWrite, specWrite, StoreCall.OnlyIssues]

end Pass

/-- Between two stores the certificate of a name was left as it is, or there was none and there is
one now that a cluster is issued. -/
def MemoryStore.IssuesAt (before after : MemoryStore) (cluster : Interconnect) (ns name : String) :
    Prop :=
  after.object? ⟨.certificate, ns, name⟩ = before.object? ⟨.certificate, ns, name⟩ ∨
    before.object? ⟨.certificate, ns, name⟩ = none ∧
      ∃ certificate version, cluster.IsIssued certificate ∧
        Kind.certificate.nameOf certificate = name ∧
        after.object? ⟨.certificate, ns, name⟩ =
          some (Kind.certificate.withVersion certificate version)

namespace MemoryStore

variable {before store after : MemoryStore} {cluster : Interconnect} {ns name : String}

theorem IssuesAt.congr (h : before.IssuesAt store cluster ns name)
    (hsame : after.object? ⟨.certificate, ns, name⟩ = store.object? ⟨.certificate, ns, name⟩) :
    before.IssuesAt after cluster ns name := by
  unfold IssuesAt
  rw [hsame]
  exact h

theorem IssuesAt.call (h : before.IssuesAt store cluster ns name) {request : StoreCall}
    (hrequest : request.OnlyIssues cluster) :
    before.IssuesAt (store.call request).2 cluster ns name := by
  rcases store.call_cases request with hwrote | hsame
  · generalize (store.call request).2 = after at hwrote
    have hother {verb : Verb} {key : ObjectKey} {object : key.kind.Object}
        (hkey : ⟨.certificate, ns, name⟩ ≠ key) :
        before.IssuesAt (store.change verb key object) cluster ns name :=
      h.congr (object?_change_of_ne hkey store verb object)
    cases hwrote with
    | @created kind space object absent =>
        by_cases hkey : (⟨.certificate, ns, name⟩ : ObjectKey) = .of kind space object
        · -- a certificate of the name is made, so there has been none since before
          cases hkey
          have hbefore : before.object? (.of .certificate ns object) = none := by
            rcases h with hsame | ⟨habsent, -⟩
            · exact hsame.symm.trans absent
            · exact habsent
          exact .inr ⟨hbefore, object, _, hrequest, rfl,
            object?_put_self store (.of .certificate ns object) object⟩
        · exact hother hkey
    | replaced =>
        refine hother fun hkey => ?_
        cases hkey
        exact hrequest
    | clusterReplaced => exact hother (by simp)
    | statusReplaced => exact hother (by simp)
  · exact h.congr (hsame.object? _)

/-- Once the making of an object was answered, the object is there. -/
theorem object?_of_created {kind : Kind} {object : kind.Object}
    (h : (store.call (.create kind ns object)).1 = .ok ()) :
    (store.call (.create kind ns object)).2.object? (.of kind ns object) ≠ none := by
  cases hfailure : store.failure with
  | some failure =>
      rw [call, write_of_failure hfailure] at h
      cases h
  | none =>
      cases hfound : store.object? (.of kind ns object) with
      | none =>
          have hstored := object?_put_self store (.of kind ns object) object
          rw [call_create_of_absent hfailure hfound]
          exact fun habsent => absurd (hstored.symm.trans habsent) (Option.some_ne_none _)
      | some live => exact object?_call_ne_none _ (by simp [hfound])

end MemoryStore

open Program in
/-- When a pass stores a specification in which a profile has its generated secret, the profile had
it before or the certificate is stored. -/
theorem Pass.Decision.backed {pass : Pass} {known : List Exchange} {moves : List Move}
    {outcome : Outcome} (h : pass.Decision known moves outcome) {state : Simulation}
    (answers : ∀ exchange ∈ known, state.store.Answers exchange) {entry : Simulation × StoreCall}
    (hentry : entry ∈ (script outcome moves).trace Simulation.runner state)
    {spec : InterconnectSpec} (hwrite : entry.2 = pass.specWrite spec) {profile : String}
    (uses : ({ pass.cluster with spec } : Interconnect).UsesGenerated profile) :
    pass.cluster.UsesGenerated profile ∨
      entry.1.store.object? ⟨.certificate, pass.ns, pass.cluster.credentialsName profile⟩ ≠
        none := by
  have hspec {other : InterconnectSpec} (hother : entry.2 = pass.specWrite other) :
      spec = other :=
    congrArg Interconnect.spec (StoreCall.replaceCluster.inj (hwrite.symm.trans hother))
  have hnone (hmoves : ∀ move ∈ moves, ∀ cluster, move.request ≠ .replaceCluster cluster) :
      False := by
    obtain ⟨move, hmove, hsame⟩ := exists_move_of_mem_trace hentry
    exact hmoves move hmove _ (hsame.trans hwrite)
  cases h with
  | persist other persists =>
      rcases mem_trace_script_cases hentry with rfl | ⟨reply, after, -, hrest⟩
      · obtain rfl := hspec rfl
        cases persists with
        | defaults => exact .inl (Interconnect.usesGenerated_of_defaults uses)
        | record read stamped =>
            rw [← stamped] at uses
            refine (Interconnect.usesGenerated_of_stamped uses).imp_right ?_
            rintro rfl
            have hread := MemoryStore.object?_of_answers answers read
            exact fun habsent => nomatch habsent.symm.trans hread
      · cases hrest
  | act walks listed shown action =>
      cases action with
      | @issue known before before' certificate step other issued stamped =>
          rcases mem_trace_script_cases hentry with rfl | ⟨reply, after, hcall, hrest⟩
          · cases hwrite
          · rcases mem_trace_script_cases hrest with rfl | ⟨reply', last, -, hnothing⟩
            · obtain rfl := hspec rfl
              rw [← stamped] at uses
              refine (Interconnect.usesGenerated_of_stamped uses).imp_right ?_
              rintro rfl
              subst issued
              have hanswer := congrArg Prod.fst hcall
              have hafter := congrArg Prod.snd hcall
              subst hafter
              exact MemoryStore.object?_of_created hanswer
            · cases hnothing
      | _ => exact (hnone (by simp [statusWrite])).elim
  | blocked | idle => cases hentry
  | _ => exact (hnone (by simp [statusWrite])).elim

namespace Simulation

variable {start current : Simulation} {past : List (Simulation × Occurrence)}
  {snapshot : Interconnect} {ns name other : String} {certificate : Certificate}
  {byHand : String → Prop}

open Program in
/-- What the calls of a pass do about certificates and their secrets. -/
theorem issues_of_trace (settings : Settings) (now : Timestamp) (limits : PassLimits) :
    ∀ entry ∈ (reconcile settings now snapshot).trace runner (current.started limits),
      entry.2.OnlyIssues snapshot ∧
        ∀ spec, entry.2 = .replaceCluster { snapshot with spec } → ∀ profile,
          ({ snapshot with spec } : Interconnect).UsesGenerated profile →
            snapshot.UsesGenerated profile ∨
              entry.1.store.object?
                ⟨.certificate, snapshot.space, snapshot.credentialsName profile⟩ ≠ none := by
  intro entry hentry
  cases hns : snapshot.metadata.ns with
  | none => simp [reconcile, hns, Program.trace] at hentry
  | some space =>
      have hspace : snapshot.space = space := by
        rw [Interconnect.space, ObjectMeta.anySpace, hns]
        rfl
      have hread (reads : entry.2.isRead = true) : entry.2.OnlyIssues snapshot ∧
          ∀ spec, entry.2 ≠ .replaceCluster { snapshot with spec } := by
        generalize entry.2 = request at reads
        cases request with
        | get | listPods => exact ⟨trivial, fun spec => by simp⟩
        | _ => cases reads
      rw [reconcile, hns] at hentry
      let pass : Pass :=
        { cluster := snapshot, ns := space, settings, now, status := snapshot.statusOrNew }
      have call : (current.started limits).PassCall pass entry := passCall hentry
      cases call with
      | read reads =>
          obtain ⟨honly, hnone⟩ := hread reads
          exact ⟨honly, fun spec hwrite => absurd hwrite (hnone spec)⟩
      | decided decision answers store made =>
          obtain ⟨move, hmove, hsame⟩ := exists_move_of_mem_trace made
          refine ⟨hsame ▸ decision.onlyIssues move hmove, fun spec hwrite profile uses => ?_⟩
          rw [← store] at answers
          rw [hspace]
          exact decision.backed answers made hwrite uses

/-- A pass leaves a certificate as it is, or makes one that the cluster is issued. -/
theorem issuesAt_pass (settings : Settings) (now : Timestamp) (limits : PassLimits) :
    current.store.IssuesAt (current.pass settings now limits snapshot).2.store snapshot ns
      other := by
  let invariant (state : Simulation) : Prop :=
    current.store.IssuesAt state.store snapshot ns other
  have hstarted : invariant (current.started limits) := .inl rfl
  have hcall : ∀ entry ∈ (reconcile settings now snapshot).trace runner (current.started limits),
      invariant entry.1 → invariant (runner.call entry.2 entry.1).2 := by
    rintro ⟨state, request⟩ hentry hstate
    have hfacing := (state.facing_sameObjects request).object? ⟨.certificate, ns, other⟩
    exact (hstate.congr hfacing).call (issues_of_trace settings now limits _ hentry).1
  exact (Program.invariant_of_trace hstarted hcall).2

/-- Every profile of the stored cluster that has its generated secret has its certificate stored, or
was given the secret by hand. -/
def Backed (current : Simulation) (ns name : String) (byHand : String → Prop) : Prop :=
  ∀ cluster, current.store.cluster? ns name = some cluster →
    ∀ profile, cluster.UsesGenerated profile →
      byHand profile ∨
        current.store.object? ⟨.certificate, ns, cluster.credentialsName profile⟩ ≠ none

theorem Backed.pass (h : current.Backed ns name byHand) (sound : current.Sound [snapshot])
    (hspace : snapshot.space = ns) (settings : Settings) (now : Timestamp) (limits : PassLimits) :
    (current.pass settings now limits snapshot).2.Backed ns name byHand := by
  cases hns : snapshot.metadata.ns with
  | none =>
      rw [Simulation.pass, reconcile, hns]
      exact h
  | some space =>
      let invariant (state : Simulation) : Prop :=
        state.Sound [snapshot] ∧ state.Backed ns name byHand
      have hstarted : invariant (current.started limits) := ⟨sound.started limits, h⟩
      have hcall : ∀ entry ∈
          (reconcile settings now snapshot).trace runner (current.started limits),
          invariant entry.1 → invariant (runner.call entry.2 entry.1).2 := by
        rintro ⟨state, request⟩ hentry ⟨hsound, hbacked⟩
        have hmay := (meets_reconcile settings now hns).trace runner _ _ hentry
        refine ⟨hsound.call hmay.isPlaced, fun cluster found profile uses => ?_⟩
        refine Or.imp_right (object?_call_ne_none request) ?_
        by_cases hsame :
            (state.call request).2.store.cluster? ns name = state.store.cluster? ns name
        · exact hbacked cluster (hsame.symm.trans found) profile uses
        · -- the store held the snapshot, and its specification or its status was replaced
          obtain ⟨held, hwritten⟩ :=
            hsound.updatesFrom (List.mem_singleton_self _) rfl hmay ns name hsame
          rcases hwritten with ⟨spec, hrequest, hstored⟩ | ⟨status, -, hstored⟩
          · obtain rfl := Option.some.inj (hstored.symm.trans found)
            obtain ⟨-, hwrites⟩ := issues_of_trace settings now limits _ hentry
            rcases hwrites spec hrequest profile uses with hhad | hissued
            · exact hbacked snapshot held profile hhad
            · exact .inr (hspace ▸ hissued)
          · obtain rfl := Option.some.inj (hstored.symm.trans found)
            exact hbacked snapshot held profile uses
      exact (Program.invariant_of_trace hstarted hcall).2.2

/-- The cluster that others put in place or write. -/
def Occurrence.written? : Occurrence → Option Interconnect
  | insert .interconnect cluster => some cluster
  | editCluster cluster => some cluster
  | _ => none

/-- Others put no certificates in place. -/
def Occurrence.PutsNoCertificate : Occurrence → Prop
  | insert kind _ => kind ≠ .certificate
  | _ => True

/-- Others put no certificates in place, and no other cluster of the store is passed over. -/
def Occurrence.LeavesCertificates (ns name : String) : Occurrence → Prop
  | insert kind _ => kind ≠ .certificate
  | pass snapshot _ _ _ => snapshot.space = ns ∧ snapshot.name = name
  | _ => True

theorem Occurrence.LeavesCertificates.putsNoCertificate {occurrence : Occurrence}
    (h : occurrence.LeavesCertificates ns name) : occurrence.PutsNoCertificate := by
  cases occurrence with
  | insert kind object => exact h
  | _ => trivial

/-- The stored specification names the secret that is generated for a profile, and no pass of the
history has put it there. The cluster had it in the beginning, or others wrote it before there was a
certificate: the store took what they wrote over a specification that did not name the secret. It
has been named ever since. -/
inductive NamedByHand (start : Simulation) (ns name profile : String) :
    List (Simulation × Occurrence) → Simulation → Prop where
  | first {cluster} (found : start.store.cluster? ns name = some cluster)
    (uses : cluster.UsesGenerated profile) : NamedByHand start ns name profile [] start
  | written {past current occurrence source cluster}
    (wrote : occurrence.written? = some source)
    (unnamed : ∀ previous, current.store.cluster? ns name = some previous →
      ¬ previous.UsesGenerated profile)
    (absent : current.store.object? ⟨.certificate, ns, source.credentialsName profile⟩ = none)
    (found : (current.after occurrence).store.cluster? ns name = some cluster)
    (taken : cluster.spec = source.spec ∧ cluster.name = source.name)
    (uses : cluster.UsesGenerated profile) :
    NamedByHand start ns name profile (past ++ [(current, occurrence)]) (current.after occurrence)
  | kept {past current occurrence cluster} (before : NamedByHand start ns name profile past current)
    (found : (current.after occurrence).store.cluster? ns name = some cluster)
    (uses : cluster.UsesGenerated profile) :
    NamedByHand start ns name profile (past ++ [(current, occurrence)]) (current.after occurrence)

theorem NamedByHand.of_nil {profile : String}
    (h : NamedByHand start ns name profile [] current) :
    ∃ cluster, start.store.cluster? ns name = some cluster ∧ cluster.UsesGenerated profile := by
  generalize hpast : [] = past at h
  cases h with
  | first found uses => exact ⟨_, found, uses⟩
  | written | kept => simp at hpast

theorem NamedByHand.of_concat {profile : String} {occurrence : Occurrence} {state : Simulation}
    (h : NamedByHand start ns name profile (past ++ [(current, occurrence)]) state) :
    NamedByHand start ns name profile past current ∨
      occurrence.written?.isSome = true ∧ ∀ previous,
        current.store.cluster? ns name = some previous → ¬ previous.UsesGenerated profile := by
  generalize hpast : past ++ [(current, occurrence)] = whole at h
  cases h with
  | first => simp at hpast
  | written wrote unnamed =>
      obtain ⟨-, hlast⟩ := List.append_inj' hpast rfl
      cases hlast
      exact .inr ⟨Option.isSome_of_mem wrote, unnamed⟩
  | kept before =>
      obtain ⟨rfl, hlast⟩ := List.append_inj' hpast rfl
      cases hlast
      exact .inl before

/-- A pass over a cluster has issued a certificate: there was none of the name, and the pass has
left this one there. -/
def IssuedBy (past : List (Simulation × Occurrence)) (snapshot : Interconnect) (ns other : String)
    (certificate : Certificate) : Prop :=
  ∃ before settings now limits, (before, .pass snapshot settings now limits) ∈ past ∧
    before.store.object? ⟨.certificate, ns, other⟩ = none ∧
    (before.pass settings now limits snapshot).2.store.object? ⟨.certificate, ns, other⟩ =
      some certificate

theorem IssuedBy.concat (h : IssuedBy past snapshot ns other certificate)
    (last : Simulation × Occurrence) :
    IssuedBy (past ++ [last]) snapshot ns other certificate := by
  obtain ⟨before, settings, now, limits, happened, hissued⟩ := h
  exact ⟨before, settings, now, limits, List.mem_append_left _ happened, hissued⟩

/-- What is stored as the cluster after others wrote has the specification that was stored before or
the one that they wrote. -/
theorem found_after {occurrence : Occurrence} (hothers : occurrence.snapshot? = none)
    {cluster : Interconnect}
    (found : (current.after occurrence).store.cluster? ns name = some cluster) :
    ∃ source, (current.store.cluster? ns name = some source ∨
        occurrence.written? = some source) ∧
      cluster.spec = source.spec ∧ cluster.name = source.name := by
  have hkept (hsame : (current.after occurrence).store.cluster? ns name =
      current.store.cluster? ns name) : ∃ source,
        (current.store.cluster? ns name = some source ∨ occurrence.written? = some source) ∧
        cluster.spec = source.spec ∧ cluster.name = source.name :=
    ⟨cluster, .inl (hsame.symm.trans found), rfl, rfl⟩
  cases occurrence with
  | insert kind object =>
      by_cases hkey : (⟨.interconnect, ns, name⟩ : ObjectKey) =
          .of kind (kind.metadata object).anySpace object
      · cases hkey
        have hput := MemoryStore.object?_put_self current.store (.of .interconnect
          (Kind.interconnect.metadata object).anySpace object) object
        obtain rfl := Option.some.inj (hput.symm.trans found)
        exact ⟨object, .inr rfl, rfl, rfl⟩
      · exact hkept (MemoryStore.object?_put_of_ne hkey current.store object)
  | editCluster written =>
      have hfacing := current.facing_sameObjects (.replaceCluster written)
      rcases (current.facing (.replaceCluster written)).call_cases (.replaceCluster written)
        with hwrote | hsame
      · rw [after, call_store] at found
        generalize ((current.facing (.replaceCluster written)).call _).2 = store at hwrote found
        cases hwrote with
        | clusterReplaced stored matched =>
            rw [MemoryStore.cluster?_change] at found
            split at found
            · obtain rfl := Option.some.inj found
              exact ⟨written, .inr rfl, rfl, rfl⟩
            · exact ⟨cluster, .inl ((hfacing.object? _).symm.trans found), rfl, rfl⟩
      · exact hkept ((hsame.object? _).trans (hfacing.object? _))
  | editStatus written =>
      have hfacing := current.facing_sameObjects (.replaceStatus written)
      rcases (current.facing (.replaceStatus written)).call_cases (.replaceStatus written)
        with hwrote | hsame
      · rw [after, call_store] at found
        generalize ((current.facing (.replaceStatus written)).call _).2 = store at hwrote found
        cases hwrote with
        | @statusReplaced _ previous stored matched =>
            rw [MemoryStore.cluster?_change] at found
            split at found
            next hkey =>
              obtain ⟨rfl, rfl⟩ := hkey
              obtain rfl := Option.some.inj found
              exact ⟨previous, .inl ((hfacing.object? _).symm.trans stored), rfl, rfl⟩
            next => exact ⟨cluster, .inl ((hfacing.object? _).symm.trans found), rfl, rfl⟩
      · exact hkept ((hsame.object? _).trans (hfacing.object? _))
  | plant failure => exact hkept rfl
  | arm after failure => exact hkept rfl
  | pass => cases hothers

theorem History.backed
    (history : History start (fun _ occurrence => occurrence.LeavesCertificates ns name) past
      current) (wellFormed : start.store.WellFormed) :
    current.Backed ns name fun profile => NamedByHand start ns name profile past current := by
  induction history with
  | start => exact fun cluster found profile uses => .inl (.first found uses)
  | @step past current occurrence history permitted read ih =>
      intro cluster found profile uses
      cases hothers : occurrence.snapshot? with
      | some snapshot =>
          have sound := history.sound wellFormed (read snapshot hothers)
          cases occurrence with
          | pass other settings now limits =>
              obtain rfl := Option.some.inj hothers
              have hpassed := ih.pass sound permitted.1 settings now limits cluster found profile uses
              exact hpassed.imp_left (.kept · found uses)
          | _ => cases hothers
      | none =>
          by_cases hnamed : ∃ previous, current.store.cluster? ns name = some previous ∧
              previous.UsesGenerated profile
          · obtain ⟨previous, hprevious, hhad⟩ := hnamed
            have hfits := (history.wellFormed wellFormed).fits _ _ hprevious
            have hfits' := ((history.step permitted read).wellFormed wellFormed).fits _ _ found
            rw [Interconnect.credentialsName_congr (hfits'.name.trans hfits.name.symm)]
            exact (ih previous hprevious profile hhad).imp (.kept · found uses)
              (object?_after_ne_none occurrence)
          · -- the secret is new in the specification, so it stands in the one that others wrote
            obtain ⟨source, hsource, hspec, hname⟩ := found_after hothers found
            rw [Interconnect.credentialsName_congr hname]
            rcases hsource with hbefore | hwritten
            · exact absurd ⟨source, hbefore, uses.congr hspec hname⟩ hnamed
            · by_cases habsent : current.store.object?
                  ⟨.certificate, ns, source.credentialsName profile⟩ = none
              · exact .inl (.written hwritten (fun previous hprevious hhad =>
                  hnamed ⟨previous, hprevious, hhad⟩) habsent found ⟨hspec, hname⟩ uses)
              · exact .inr (object?_after_ne_none occurrence habsent)

/-- Every stored certificate was issued by a pass, to the cluster that this was over, and is as the
pass left it. -/
theorem History.exists_origin
    (history : History start (fun _ occurrence => occurrence.PutsNoCertificate) past current)
    (none_yet : ∀ other, start.store.object? ⟨.certificate, ns, other⟩ = none)
    (stored : current.store.object? ⟨.certificate, ns, other⟩ = some certificate) :
    ∃ snapshot original version, IssuedBy past snapshot ns other certificate ∧
      snapshot.IsIssued original ∧ Kind.certificate.nameOf original = other ∧
      certificate = Kind.certificate.withVersion original version := by
  induction history with
  | start => exact nomatch (none_yet other).symm.trans stored
  | @step past current occurrence history permitted read ih =>
      have hkept (hsame : (current.after occurrence).store.object? ⟨.certificate, ns, other⟩ =
          current.store.object? ⟨.certificate, ns, other⟩) :
          ∃ snapshot original version,
            IssuedBy (past ++ [(current, occurrence)]) snapshot ns other certificate ∧
            snapshot.IsIssued original ∧ Kind.certificate.nameOf original = other ∧
            certificate = Kind.certificate.withVersion original version := by
        obtain ⟨snapshot, original, version, hissued, horiginal⟩ := ih (hsame.symm.trans stored)
        exact ⟨snapshot, original, version, hissued.concat _, horiginal⟩
      cases occurrence with
      | insert kind object =>
          have hkind : kind ≠ .certificate := permitted
          exact hkept (MemoryStore.object?_insert_of_kind_ne hkind current.store object)
      | editCluster cluster =>
          exact hkept (object?_call_of_ne current (by simp [StoreCall.target?]))
      | editStatus cluster =>
          exact hkept (object?_call_of_ne current (by simp [StoreCall.target?]))
      | plant failure => exact hkept rfl
      | arm after failure => exact hkept rfl
      | pass snapshot settings now limits =>
          rcases current.issuesAt_pass settings now limits with hsame | hmade
          · exact hkept hsame
          · obtain ⟨habsent, original, version, hissued, hname, hmade⟩ := hmade
            have hcertificate := Option.some.inj (stored.symm.trans hmade)
            exact ⟨snapshot, original, version, ⟨current, settings, now, limits,
              List.mem_append_right _ (List.mem_singleton_self _), habsent, stored⟩,
              hissued, hname, hcertificate⟩

/-- Where no other cluster is passed over, that was a pass over the cluster. -/
theorem History.issued
    (history : History start (fun _ occurrence => occurrence.LeavesCertificates ns name) past
      current) (none_yet : ∀ other, start.store.object? ⟨.certificate, ns, other⟩ = none)
    (stored : current.store.object? ⟨.certificate, ns, other⟩ = some certificate) :
    ∃ snapshot original version, IssuedBy past snapshot ns other certificate ∧
      snapshot.space = ns ∧ snapshot.name = name ∧ snapshot.IsIssued original ∧
      Kind.certificate.nameOf original = other ∧
      certificate = Kind.certificate.withVersion original version := by
  have hany := history.imp fun _ _ permitted => permitted.putsNoCertificate
  obtain ⟨snapshot, original, version, hissued, horiginal⟩ := hany.exists_origin none_yet stored
  have hpassed : snapshot.space = ns ∧ snapshot.name = name := by
    obtain ⟨before, settings, now, limits, happened, -⟩ := hissued
    exact history.permits_of_mem _ happened
  exact ⟨snapshot, original, version, hissued, hpassed.1, hpassed.2, horiginal⟩

/-- Whatever happens to a cluster, short of others putting certificates in place: what is stored
under the name of a profile's certificate was issued by a pass, is as that pass left it, and lists
the host of the service and the hosts that were exposed with the profile in the specification that
the pass was over, and no others. So the host of a listener is covered exactly if a listener with
its target was exposed with the profile by then. And a profile that has its generated secret has its
certificate stored, unless the secret was named by hand before there was one and ever since. -/
theorem leaf_certificate_as_issued (wellFormed : start.store.WellFormed)
    (none_yet : ∀ other, start.store.object? ⟨.certificate, ns, other⟩ = none)
    (history : History start (fun _ occurrence => occurrence.LeavesCertificates ns name) past
      current)
    {cluster : Interconnect} (found : current.store.cluster? ns name = some cluster)
    (profile : String) :
    (∀ certificate,
      current.store.object? ⟨.certificate, ns, cluster.credentialsName profile⟩ =
          some certificate →
        ∃ snapshot hosts,
          IssuedBy past snapshot ns (cluster.credentialsName profile) certificate ∧
          certificate.spec.dnsNames = some hosts ∧
          hosts = cluster.serviceHost :: snapshot.exposedHosts profile ∧
          ∀ listener, cluster.exposureHost listener ∈ hosts ↔
            ∃ other, snapshot.spec.Exposes other ∧ other.profile = some profile ∧
              other.targetName = listener.targetName) ∧
    (cluster.UsesGenerated profile →
      NamedByHand start ns name profile past current ∨
        current.store.object? ⟨.certificate, ns, cluster.credentialsName profile⟩ ≠ none) := by
  refine ⟨fun certificate stored => ?_, history.backed wellFormed cluster found profile⟩
  obtain ⟨snapshot, original, version, hissued, hspace, hname, his, hcertificate, rfl⟩ :=
    history.issued none_yet stored
  have hfits := (history.wellFormed wellFormed).fits _ _ found
  have hsame : snapshot.space = cluster.space ∧ snapshot.name = cluster.name :=
    ⟨hspace.trans (hfits.space rfl).symm, hname.trans hfits.name.symm⟩
  have hhost : cluster.serviceHost = snapshot.serviceHost := by
    rw [Interconnect.serviceHost, Interconnect.serviceHost, hsame.1, hsame.2]
  have hexposure (listener : Listener) :
      cluster.exposureHost listener = snapshot.exposureHost listener := by
    rw [Interconnect.exposureHost, Interconnect.exposureHost, Interconnect.exposureName,
      Interconnect.exposureName, hsame.1, hsame.2]
  have hsecret := Interconnect.credentialsName_congr hsame.2.symm profile
  obtain rfl := his.eq_profileCertificate (hcertificate.trans hsecret)
  refine ⟨snapshot, _, hissued, rfl, by rw [hhost], fun listener => ?_⟩
  rw [hexposure]
  exact Interconnect.mem_exposedHosts_iff

/-- A cluster whose only profile is to be issued its certificate by an authority of the user. -/
def suppliedCluster : Interconnect :=
  ({ lackingCluster with
    spec := { lackingCluster.spec with
      deploymentPlan := { lackingCluster.spec.deploymentPlan with issuer := some "corporate" } } } :
    Interconnect).under (some "5")

/-- A run to where all is stored that its certificate comes after. -/
def issuable : Simulation where
  store := ((((({} : MemoryStore).insert .role suppliedCluster.role).insert .roleBinding
    suppliedCluster.roleBinding).insert .serviceAccount suppliedCluster.serviceAccount).insert
    .issuer suppliedCluster.caIssuer).insert .interconnect suppliedCluster

/-- Certificates can be issued. -/
def issuing : Settings := { capabilities := { certManager := true } }

/-- The run in which a pass issues the certificate. -/
def issuedOnce : Simulation := issuable.after (.pass suppliedCluster issuing default {})

/-- A cluster with all its listeners for clients exposed. -/
def exposing (cluster : Interconnect) : Interconnect :=
  { cluster with
    spec := { cluster.spec with
      listeners := cluster.spec.listeners.map fun listener => { listener with expose := true } } }

/-- A run in which the user exposes them, with the version that is stored. -/
def exposed (simulation : Simulation) : Simulation :=
  simulation.after
    (.editCluster (exposing ((simulation.store.cluster? "msg" "amq").getD suppliedCluster)))

theorem object?_issuable_certificate (other : String) :
    issuable.store.object? ⟨.certificate, "msg", other⟩ = none := by
  simp only [issuable]
  iterate 5 rw [MemoryStore.object?_insert_of_kind_ne (by simp)]
  simp [MemoryStore.object?]

theorem history_issuedOnce :
    History issuable (fun _ occurrence => occurrence.LeavesCertificates "msg" "amq")
      [(issuable, .pass suppliedCluster issuing default {})] issuedOnce := by
  have read : WasStored [] issuable suppliedCluster :=
    ⟨issuable, List.mem_singleton_self _, "msg", "amq", rfl⟩
  exact History.start.step ⟨rfl, rfl⟩ (by simpa [Occurrence.snapshot?] using read)

/-- The pass put the secret of the profile there, and the user's edit found it there. -/
theorem not_namedByHand_exposed : ¬ NamedByHand issuable "msg" "amq" "default"
    ([(issuable, .pass suppliedCluster issuing default {})] ++
      [(issuedOnce, .editCluster
        (exposing ((issuedOnce.store.cluster? "msg" "amq").getD suppliedCluster)))])
    issuedOnce.exposed := by
  have issued : ∃ cluster ∈ issuedOnce.store.cluster? "msg" "amq",
      cluster.UsesGenerated "default" := by
    decide +kernel
  intro named
  rcases named.of_concat with hbefore | ⟨-, unnamed⟩
  · rw [← List.nil_append [_]] at hbefore
    rcases hbefore.of_concat with hfirst | ⟨hwritten, -⟩
    · obtain ⟨cluster, found, uses⟩ := hfirst.of_nil
      cases found
      exact absurd uses (by decide)
    · cases hwritten
  · obtain ⟨cluster, found, uses⟩ := issued
    exact unnamed cluster found uses

theorem certificate_stays_when_exposed :
    issuable.store.WellFormed ∧
      (∀ other, issuable.store.object? ⟨.certificate, "msg", other⟩ = none) ∧
      (∃ past, History issuable (fun _ occurrence => occurrence.LeavesCertificates "msg" "amq") past
          issuedOnce.exposed ∧
        ¬ NamedByHand issuable "msg" "amq" "default" past issuedOnce.exposed) ∧
      ∃ cluster certificate hosts, issuedOnce.exposed.store.cluster? "msg" "amq" = some cluster ∧
        cluster.spec.exposedListeners ≠ [] ∧ cluster.UsesGenerated "default" ∧
        issuedOnce.exposed.store.object?
          ⟨.certificate, "msg", cluster.credentialsName "default"⟩ = some certificate ∧
        certificate.spec.dnsNames = some hosts ∧ cluster.serviceHost ∈ hosts ∧
        ∀ listener, cluster.exposureHost listener ∉ hosts := by
  have wellFormed : issuable.store.WellFormed :=
    ((((MemoryStore.wellFormed_empty.insert _ _).insert _ _).insert _ _).insert _ _).insert _ _
  have none_yet := object?_issuable_certificate
  have twice : History issuable (fun _ occurrence => occurrence.LeavesCertificates "msg" "amq")
      _ issuedOnce.exposed := history_issuedOnce.step trivial (by simp [Occurrence.snapshot?])
  have hstored : ∃ cluster ∈ issuedOnce.exposed.store.cluster? "msg" "amq",
      cluster.spec.exposedListeners ≠ [] ∧ cluster.UsesGenerated "default" := by
    decide +kernel
  obtain ⟨cluster, found, hexposed, uses⟩ := hstored
  obtain ⟨hissued, hbacked⟩ := leaf_certificate_as_issued wellFormed none_yet twice found "default"
  have hpresent := (hbacked uses).resolve_left not_namedByHand_exposed
  obtain ⟨certificate, stored⟩ := Option.ne_none_iff_exists'.mp hpresent
  obtain ⟨snapshot, hosts, hby, hnames, hhosts, hcovered⟩ := hissued certificate stored
  -- the pass that issued it was over the cluster before anything was exposed
  have hsnapshot : snapshot = suppliedCluster := by
    obtain ⟨before, settings, now, limits, happened, -⟩ := hby
    simp at happened
    exact happened.2.1
  refine ⟨wellFormed, none_yet, ⟨_, twice, not_namedByHand_exposed⟩, cluster, certificate, hosts,
    found, hexposed, uses, stored, hnames, hhosts ▸ List.mem_cons_self, fun listener hmem => ?_⟩
  obtain ⟨other, hother, -⟩ := (hcovered listener).mp hmem
  subst hsnapshot
  cases InterconnectSpec.mem_exposedListeners_iff.mpr hother

/-- Where a profile has its generated secret, the certificate is stored and covers the service and
the exposed listeners that use the profile. -/
def CoversExposed (simulation : Simulation) (cluster : Interconnect) : Prop :=
  ∀ listener ∈ cluster.spec.exposedListeners, ∀ profile ∈ listener.profile,
    cluster.UsesGenerated profile →
      ∃ certificate ∈ simulation.store.object?
          ⟨.certificate, cluster.space, cluster.credentialsName profile⟩,
        ∃ hosts ∈ (certificate : Certificate).spec.dnsNames,
          cluster.serviceHost ∈ hosts ∧ cluster.exposureHost listener ∈ hosts

instance (simulation : Simulation) (cluster : Interconnect) :
    Decidable (simulation.CoversExposed cluster) :=
  inferInstanceAs (Decidable (∀ listener ∈ cluster.spec.exposedListeners,
    ∀ profile ∈ listener.profile, cluster.UsesGenerated profile →
      ∃ certificate ∈ simulation.store.object?
          ⟨.certificate, cluster.space, cluster.credentialsName profile⟩,
        ∃ hosts ∈ (certificate : Certificate).spec.dnsNames,
          cluster.serviceHost ∈ hosts ∧ cluster.exposureHost listener ∈ hosts))

/-- Fresh passes until one asks for no other. -/
def settled (simulation : Simulation) : List (Except Error Outcome) × Simulation :=
  simulation.converge issuing default {} (·.store.cluster? "msg" "amq") 20

/-- The passes end with an idle one, and an exposed host is not covered. -/
def EndsUncovered (simulation : Simulation) : Prop :=
  simulation.settled.1.getLast?.bind Except.toOption = some .idle ∧
    ∃ cluster ∈ simulation.settled.2.store.cluster? "msg" "amq",
      ¬ simulation.settled.2.CoversExposed cluster

instance (simulation : Simulation) : Decidable simulation.EndsUncovered :=
  inferInstanceAs (Decidable (_ ∧ _))

/-- The run in which the user names the secret of the profile before any pass. -/
def namedFirst : Simulation :=
  unseen.after (.editCluster { unseenCluster with
    spec := { unseenCluster.spec with
      sslProfiles := [{ name := "default", credentials := some "amq-default-tls" }] } })

/-- A listener that is exposed once all is in place is not covered, and neither is one whose profile
had the name of its secret from the beginning. -/
theorem late_exposure_not_covered :
    unseen.settled.2.exposed.EndsUncovered ∧ namedFirst.exposed.EndsUncovered := by
  decide +kernel

end Simulation

end RouterOperator
