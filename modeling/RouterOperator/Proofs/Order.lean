import RouterOperator.Proofs.Shape
import RouterOperator.Proofs.Store.Strikes

/-!
# The order of dependencies

When a pass writes an object, everything that comes before it in the checklist is present and as it
should be. It follows for the certificates that nothing is issued before its issuer is there, and no
issuer is set up before the certificate is there that it signs with.
-/

namespace RouterOperator

namespace Interconnect

/-- The workload that placement selects. -/
inductive Selects (cluster : Interconnect) (image : String) : (kind : Kind) → kind.Object → Prop
  where
  | deployment (placed : cluster.runsOnEveryNode = false) :
    Selects cluster image .deployment (cluster.deployment image)
  | daemonSet (placed : cluster.runsOnEveryNode = true) :
    Selects cluster image .daemonSet (cluster.daemonSet image)

/-- A call writes the object of a goal: it creates what is desired, or it brings a live object to
the desired state, and a deployment to the size that is asked for. -/
inductive WritesFor (cluster : Interconnect) (settings : Settings) (ns : String) :
    Goal → StoreCall → Prop where
  | create {kind : Kind} {desired : kind.Object} :
    WritesFor cluster settings ns (.object kind desired) (.create kind ns desired)
  | replace {kind : Kind} {desired : kind.Object} (live : kind.Object) :
    WritesFor cluster settings ns (.object kind desired)
      (.replace kind ns (kind.updated live desired))
  | createWorkload {kind : Kind} {desired : kind.Object}
    (selected : cluster.Selects settings.routerImage kind desired) :
    WritesFor cluster settings ns .workload (.create kind ns desired)
  | replaceWorkload {kind : Kind} {desired : kind.Object}
    (selected : cluster.Selects settings.routerImage kind desired) (live : kind.Object) :
    WritesFor cluster settings ns .workload (.replace kind ns (kind.updated live desired))
  | resizeWorkload (placed : cluster.runsOnEveryNode = false) (live : Deployment) :
    WritesFor cluster settings ns .workload
      (.replace .deployment ns ((live.updated (cluster.deployment settings.routerImage)).resized
        cluster.spec.deploymentPlan.size))

end Interconnect

namespace Pass

variable {pass : Pass} {kind : Kind} {desired : kind.Object} {known : List Exchange}

theorem Selects.cluster (h : pass.Selects known kind desired) :
    pass.cluster.Selects pass.settings.routerImage kind desired := by
  cases h with
  | deployment placed => exact .deployment placed
  | daemonSet placed => exact .daemonSet placed

/-- The first call of an action writes for its goal, and no other call writes a derived object. -/
theorem Action.writesFor {goal : Goal} {moves : List Move} {outcome : Outcome}
    (h : pass.Action known goal moves outcome) :
    ∃ move rest, moves = move :: rest ∧
      pass.cluster.WritesFor pass.settings pass.ns goal move.request ∧
      ∀ other ∈ rest, other.request.writesDerived = false := by
  have hstatus (status : InterconnectStatus) : (pass.statusWrite status).writesDerived = false :=
    rfl
  cases h with
  | create => exact ⟨_, _, rfl, .create, by simp⟩
  | update => exact ⟨_, _, rfl, .replace _, by simp⟩
  | issue spec => exact ⟨_, _, rfl, .create, by simp [specWrite, StoreCall.writesDerived]⟩
  | deploy selected =>
      exact ⟨_, _, rfl, .createWorkload selected.cluster, by
        simp [statusWrite, StoreCall.writesDerived]⟩
  | refresh selected => exact ⟨_, _, rfl, .replaceWorkload selected.cluster _, by simp⟩
  | upgrade selected =>
      exact ⟨_, _, rfl, .replaceWorkload selected.cluster _, by
        simp [statusWrite, StoreCall.writesDerived]⟩
  | resize selected =>
      cases selected with
      | deployment placed =>
          exact ⟨_, _, rfl, .resizeWorkload placed _, by
            simp [statusWrite, StoreCall.writesDerived]⟩

/-- A decision to write a derived object is an action for the first goal that is not met. -/
theorem Decision.writesFor {moves : List Move} {outcome : Outcome}
    (h : pass.Decision known moves outcome)
    (hwrites : ∃ move ∈ moves, move.request.writesDerived = true) {store : MemoryStore}
    (hanswers : ∀ exchange ∈ known, store.Answers exchange) :
    ∃ move rest front goal later, moves = move :: rest ∧
      (∀ other ∈ rest, other.request.writesDerived = false) ∧
      pass.cluster.checklist pass.settings = front ++ goal :: later ∧
      pass.cluster.WritesFor pass.settings pass.ns goal move.request ∧
      ¬ pass.cluster.Meets pass.settings store pass.ns goal ∧
      ∀ earlier ∈ front, pass.cluster.Meets pass.settings store pass.ns earlier := by
  cases h with
  | act walks listed shown action =>
      obtain ⟨move, rest, hmoves, hgoal, hrest⟩ := action.writesFor
      refine ⟨move, rest, _, _, _, hmoves, hrest, listed, hgoal, action.unmet hanswers, ?_⟩
      exact fun earlier hearlier => shown earlier hearlier store hanswers
  | _ => simp [statusWrite, specWrite, StoreCall.writesDerived] at hwrites

open Program in
/-- A pass writes a derived object for the first goal of its checklist that the store does not
meet. -/
theorem writesFor_program (pass : Pass) (simulation : Simulation) :
    ∀ entry ∈ pass.program.trace Simulation.runner simulation, entry.2.writesDerived = true →
      ∃ front goal rest, pass.cluster.checklist pass.settings = front ++ goal :: rest ∧
        pass.cluster.WritesFor pass.settings pass.ns goal entry.2 ∧
        ¬ pass.cluster.Meets pass.settings entry.1.store pass.ns goal ∧
        ∀ earlier ∈ front, pass.cluster.Meets pass.settings entry.1.store pass.ns earlier := by
  intro entry hentry hwrites
  have hread (request : StoreCall) (h : request.isRead = true) :
      request.writesDerived = false := by
    cases request with
    | get | listPods => rfl
    | _ => cases h
  cases Simulation.passCall hentry with
  | read reads => exact nomatch hwrites.symm.trans (hread _ reads)
  | decided decision answers store made =>
      obtain ⟨move, hmove, hsame⟩ := exists_move_of_mem_trace made
      rw [← store] at answers
      obtain ⟨first, rest, front, goal, later, rfl, hrest, listed, hgoal, hmeets⟩ :=
        decision.writesFor ⟨move, hmove, hsame ▸ hwrites⟩ answers
      rcases mem_trace_script_cons made with rfl | ⟨other, hother, hcall⟩
      · exact ⟨front, goal, later, listed, hgoal, hmeets⟩
      · -- what comes behind the first call keeps records of it
        rw [hcall, hrest other hother] at hwrites
        cases hwrites

end Pass

namespace Interconnect

variable {cluster : Interconnect} {settings : Settings} {front rest : List Goal}

/-- A goal of two lists in a row stands in the first one, or in the second one and behind all of the
first. -/
theorem goal_of_append {first second : List Goal} {goal : Goal}
    (h : first ++ second = front ++ goal :: rest) :
    (∃ later, first = front ++ goal :: later) ∨
      ∃ inner, front = first ++ inner ∧ second = inner ++ goal :: rest := by
  induction first generalizing front with
  | nil => exact .inr ⟨front, rfl, h⟩
  | cons head first ih =>
      cases front with
      | nil =>
          obtain ⟨rfl, -⟩ := List.cons.inj h
          exact .inl ⟨first, rfl⟩
      | cons other front =>
          obtain ⟨rfl, htail⟩ := List.cons.inj h
          refine (ih htail).imp ?_ ?_
          · rintro ⟨later, rfl⟩
            exact ⟨later, rfl⟩
          · rintro ⟨inner, rfl, hsecond⟩
            exact ⟨inner, rfl, hsecond⟩

/-- A goal about an issuer or a certificate stands among those of the certificates. -/
theorem certificateGoals_of_checklist {kind : Kind} {desired : kind.Object}
    (hkind : kind = .issuer ∨ kind = .certificate)
    (h : cluster.checklist settings = front ++ .object kind desired :: rest) :
    ∃ inner later, cluster.certificateGoals settings = inner ++ .object kind desired :: later ∧
      inner ⊆ front := by
  have haccess : .object kind desired ∉ cluster.accessGoals := by
    rcases hkind with rfl | rfl <;> simp [accessGoals]
  have hserving : .object kind desired ∉ cluster.servingGoals settings := by
    have hexposure (listener : Listener) :
        cluster.exposureGoal settings listener ≠ .object kind desired := by
      unfold exposureGoal
      rcases hkind with rfl | rfl <;> split <;> simp
    rcases hkind with rfl | rfl <;> simp [servingGoals, hexposure]
  rw [checklist, List.append_assoc] at h
  rcases goal_of_append h with ⟨later, hlist⟩ | ⟨inner, rfl, hbehind⟩
  · exact absurd (by simp [hlist]) haccess
  · rcases goal_of_append hbehind with ⟨later, hlist⟩ | ⟨inner, -, hlist⟩
    · exact ⟨inner, later, hlist, List.subset_append_right _ _⟩
    · exact absurd (by simp [hlist]) hserving

/-- It stands among those of the authority, or it is about the certificate of a profile and behind
all of the authority. -/
theorem authorityGoals_of_checklist {kind : Kind} {desired : kind.Object}
    (hkind : kind = .issuer ∨ kind = .certificate)
    (h : cluster.checklist settings = front ++ .object kind desired :: rest) :
    (∃ inner later, cluster.authorityGoals = inner ++ .object kind desired :: later ∧
        inner ⊆ front) ∨
      ∃ step, (.object kind desired : Goal) =
          .object .certificate (cluster.stepCertificate step) ∧ cluster.authorityGoals ⊆ front := by
  obtain ⟨inner, later, hlist, hinner⟩ := certificateGoals_of_checklist hkind h
  unfold certificateGoals at hlist
  split at hlist
  · split at hlist
    · exact absurd hlist (by simp)
    next step pending =>
      rcases goal_of_append hlist with ⟨later, hauthority⟩ | ⟨last, rfl, hlast⟩
      · exact .inl ⟨inner, later, hauthority, hinner⟩
      · cases last with
        | nil =>
            obtain ⟨hgoal, -⟩ := List.cons.inj hlast
            rw [List.append_nil] at hinner
            exact .inr ⟨step, hgoal.symm, hinner⟩
        | cons goal last => exact absurd hlast (by simp)
  · exact absurd hlist (by simp)

/-- The goal of a certificate stands behind that of the issuer that is to sign it. -/
theorem issuer_before_certificate {certificate : Certificate}
    (h : cluster.checklist settings = front ++ .object .certificate certificate :: rest) :
    ∃ issuer, .object .issuer issuer ∈ front ∧
      Kind.issuer.nameOf issuer = certificate.spec.issuerRef.name := by
  rcases authorityGoals_of_checklist (.inr rfl) h with ⟨inner, later, hlist, hinner⟩ |
    ⟨step, hgoal, hfront⟩
  · -- the certificate of the cluster's own authority, behind the issuer that signs itself
    unfold authorityGoals at hlist
    split at hlist
    · cases inner with
      | nil => cases hlist
      | cons first inner =>
          obtain ⟨rfl, hrest⟩ := List.cons.inj hlist
          have hrest : [Goal.object .certificate cluster.selfSignedCa,
              .object .issuer cluster.caIssuer] =
            inner ++ .object .certificate certificate :: later := hrest
          have hmem : .object .certificate certificate ∈ inner ++
              .object .certificate certificate :: later := by simp
          obtain rfl : certificate = cluster.selfSignedCa := by simpa [← hrest] using hmem
          exact ⟨cluster.selfSignedIssuer, hinner List.mem_cons_self, rfl⟩
    · exact absurd hlist (by simp [List.singleton_eq_append_iff])
  · cases hgoal
    refine ⟨cluster.caIssuer, hfront (by simp [authorityGoals]), ?_⟩
    cases step <;> rfl

/-- Without an external authority the goal of the issuer that signs with a secret stands behind that
of the certificate that this secret comes from. -/
theorem certificate_before_issuer {issuer : Issuer} {secret : String}
    (hissuer : issuer.spec.ca = some secret)
    (hown : cluster.spec.deploymentPlan.externalIssuer = none)
    (h : cluster.checklist settings = front ++ .object .issuer issuer :: rest) :
    .object .certificate cluster.selfSignedCa ∈ front ∧
      cluster.selfSignedCa.spec.secretName = secret := by
  rcases authorityGoals_of_checklist (.inl rfl) h with ⟨inner, later, hlist, hinner⟩ |
    ⟨step, hgoal, -⟩
  · unfold authorityGoals at hlist
    rw [if_pos (by simp [hown])] at hlist
    cases inner with
    | nil =>
        -- the issuer that signs itself has no secret
        cases hlist
        cases hissuer
    | cons first inner =>
        obtain ⟨rfl, hrest⟩ := List.cons.inj hlist
        cases inner with
        | nil => cases hrest
        | cons second inner =>
            obtain ⟨rfl, hlast⟩ := List.cons.inj hrest
            have hlast : [Goal.object .issuer cluster.caIssuer] =
              inner ++ .object .issuer issuer :: later := hlast
            have hmem : .object .issuer issuer ∈ inner ++ .object .issuer issuer :: later := by simp
            obtain rfl : issuer = cluster.caIssuer := by simpa [← hlast] using hmem
            have hsecret : cluster.caSecretName = secret := Option.some.inj hissuer
            rw [caSecretName, hown] at hsecret
            exact ⟨hinner (by simp), hsecret⟩
  · cases hgoal

end Interconnect

/-- Whatever the store holds and whichever snapshot a pass is given, when it creates or replaces a
derived object it does so for the first goal of the checklist that the store does not meet: every
object of an earlier stage is present and has not drifted. In particular every certificate is
created with its issuer present, and an issuer that signs with a secret of the cluster's own with
the certificate present that the secret comes from. -/
theorem writes_follow_checklist (simulation : Simulation) (settings : Settings) (now : Timestamp)
    (cluster : Interconnect) :
    ∀ entry ∈ (reconcile settings now cluster).trace Simulation.runner simulation,
      entry.2.writesDerived = true →
        (∃ front goal rest, cluster.checklist settings = front ++ goal :: rest ∧
          cluster.WritesFor settings cluster.space goal entry.2 ∧
          ¬ cluster.Meets settings entry.1.store cluster.space goal ∧
          ∀ earlier ∈ front, cluster.Meets settings entry.1.store cluster.space earlier) ∧
        (∀ certificate, entry.2 = .create .certificate cluster.space certificate →
          (entry.1.store.object?
            ⟨.issuer, cluster.space, certificate.spec.issuerRef.name⟩).isSome) ∧
        ∀ issuer secret, entry.2 = .create .issuer cluster.space issuer →
          issuer.spec.ca = some secret → cluster.spec.deploymentPlan.externalIssuer = none →
            cluster.selfSignedCa.spec.secretName = secret ∧
              (entry.1.store.object? ⟨.certificate, cluster.space, cluster.selfSignedName⟩).isSome
    := by
  intro entry hentry hwrites
  have hordered : ∃ front goal rest, cluster.checklist settings = front ++ goal :: rest ∧
      cluster.WritesFor settings cluster.space goal entry.2 ∧
      ¬ cluster.Meets settings entry.1.store cluster.space goal ∧
      ∀ earlier ∈ front, cluster.Meets settings entry.1.store cluster.space earlier := by
    cases hns : cluster.metadata.ns with
    | none => simp [reconcile, hns, Program.trace] at hentry
    | some ns =>
        have hspace : cluster.space = ns := by simp [Interconnect.space, ObjectMeta.anySpace, hns]
        rw [reconcile, hns] at hentry
        rw [hspace]
        let pass : Pass := { cluster, ns, settings, now, status := cluster.statusOrNew }
        exact pass.writesFor_program simulation entry hentry hwrites
  refine ⟨hordered, ?_, ?_⟩
  · intro certificate hcreate
    obtain ⟨front, goal, rest, listed, hgoal, -, met⟩ := hordered
    rw [hcreate] at hgoal
    cases hgoal with
    | createWorkload selected => cases selected
    | create =>
        obtain ⟨issuer, hissuer, hname⟩ := Interconnect.issuer_before_certificate listed
        obtain ⟨live, hlive, -⟩ := met _ hissuer
        rw [← hname, hlive]
        rfl
  · intro issuer secret hcreate hsecret hown
    obtain ⟨front, goal, rest, listed, hgoal, -, met⟩ := hordered
    rw [hcreate] at hgoal
    cases hgoal with
    | createWorkload selected => cases selected
    | create =>
        obtain ⟨hcertificate, hname⟩ :=
          Interconnect.certificate_before_issuer hsecret hown listed
        obtain ⟨live, hlive, -⟩ := met _ hcertificate
        refine ⟨hname, ?_⟩
        rw [show cluster.selfSignedName = Kind.certificate.nameOf cluster.selfSignedCa from rfl,
          hlive]
        rfl

/-- A cluster whose only profile lacks its certificate. -/
def lackingCluster : Interconnect :=
  { securedCluster with
    spec := { securedCluster.spec with sslProfiles := [{ name := "default" }] } }

/-- A store with the access of this cluster in place and the certificate of its authority. -/
def certifiedStore : MemoryStore :=
  ((((({} : MemoryStore).insert .role lackingCluster.role).insert .roleBinding
    lackingCluster.roleBinding).insert .serviceAccount lackingCluster.serviceAccount).insert
    .issuer lackingCluster.selfSignedIssuer).insert .certificate lackingCluster.selfSignedCa

/-- The same store with the whole authority. -/
def authorizedStore : MemoryStore := certifiedStore.insert .issuer lackingCluster.caIssuer

/-- The object of a kind that a call creates in a namespace. -/
def StoreCall.creation (kind : Kind) (ns : String) : StoreCall → Option kind.Object
  | .create other space object =>
    if h : other = kind ∧ space = ns then some (h.1 ▸ object) else none
  | _ => none

theorem StoreCall.eq_of_creation {kind : Kind} {ns : String} {request : StoreCall}
    {object : kind.Object} (h : request.creation kind ns = some object) :
    request = .create kind ns object := by
  unfold creation at h
  split at h
  · split at h
    next hsame =>
      obtain ⟨rfl, rfl⟩ := hsame
      cases h
      rfl
    · cases h
  · cases h

theorem profile_certificate_after_issuer :
    let settings : Settings := { capabilities := { certManager := true } }
    (∃ entry ∈ (reconcile settings default lackingCluster).trace Simulation.runner
        { store := authorizedStore, deadline := 1 },
      ∃ certificate, entry.2 = .create .certificate "msg" certificate ∧
        certificate.metadata.anyName = "amq-default-tls" ∧
        (entry.1.store.object? ⟨.issuer, "msg", certificate.spec.issuerRef.name⟩).isSome) ∧
    ∃ entry ∈ (reconcile settings default lackingCluster).trace Simulation.runner
        { store := certifiedStore, deadline := 1 },
      ∃ issuer secret, entry.2 = .create .issuer "msg" issuer ∧ issuer.spec.ca = some secret ∧
        lackingCluster.selfSignedCa.spec.secretName = secret ∧
        (entry.1.store.object? ⟨.certificate, "msg", lackingCluster.selfSignedName⟩).isSome := by
  intro settings
  constructor
  · let simulation : Simulation := { store := authorizedStore, deadline := 1 }
    have hentry : (((reconcile settings default lackingCluster).trace Simulation.runner
        simulation)[7]?.bind fun entry => (entry.2.creation .certificate "msg").map
          fun certificate => certificate.metadata.anyName) = some "amq-default-tls" := by
      decide +kernel
    obtain ⟨entry, hsome, hcall⟩ := Option.bind_eq_some_iff.mp hentry
    obtain ⟨certificate, hcertificate, hname⟩ := Option.map_eq_some_iff.mp hcall
    have hmem := List.mem_of_getElem? hsome
    have hcreate := StoreCall.eq_of_creation hcertificate
    obtain ⟨-, hissuers, -⟩ := writes_follow_checklist simulation settings default lackingCluster
      entry hmem (by rw [hcreate]; rfl)
    exact ⟨entry, hmem, certificate, hcreate, hname, hissuers certificate hcreate⟩
  · let simulation : Simulation := { store := certifiedStore, deadline := 1 }
    have hentry : (((reconcile settings default lackingCluster).trace Simulation.runner
        simulation)[6]?.bind fun entry => (entry.2.creation .issuer "msg").bind
          fun issuer => issuer.spec.ca) = some lackingCluster.caSecretName := by decide +kernel
    obtain ⟨entry, hsome, hcall⟩ := Option.bind_eq_some_iff.mp hentry
    obtain ⟨issuer, hissuer, hsecret⟩ := Option.bind_eq_some_iff.mp hcall
    have hmem := List.mem_of_getElem? hsome
    have hcreate := StoreCall.eq_of_creation hissuer
    obtain ⟨-, -, hcertificates⟩ := writes_follow_checklist simulation settings default
      lackingCluster entry hmem (by rw [hcreate]; rfl)
    exact ⟨entry, hmem, issuer, _, hcreate, hsecret,
      hcertificates issuer _ hcreate hsecret rfl⟩

end RouterOperator
