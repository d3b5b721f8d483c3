import RouterOperator.Proofs.Converged
import RouterOperator.Proofs.Progress

/-!
# Settling

A store settles within a number of passes if passes over the freshly read cluster succeed whenever
they are made and, at the latest the last one of that number, ask for no other; from then on every
pass has the same outcome and changes nothing. The bounds are built up from the end: first for the
checklist, then for the certificates in front of it, then for what precedes both.
-/

namespace RouterOperator

namespace MemoryStore

/-- One pass over the cluster of a namespace and name as it is stored, if it is. -/
def nextPass (store : MemoryStore) (settings : Settings) (now : Timestamp) (ns name : String) :
    Option (Except Error Outcome) × MemoryStore :=
  match store.cluster? ns name with
  | none => (none, store)
  | some cluster =>
    let (result, after) := store.pass settings now cluster
    (some result, after)

variable (settings : Settings) (ns name : String)

/-- Every pass has this outcome and changes nothing. -/
def Rests (store : MemoryStore) (outcome : Outcome) : Prop :=
  ∀ now, store.nextPass settings now ns name = (some (.ok outcome), store)

/-- Within so many passes, whenever they are made, one asks for no other, and then the store
rests. No pass on the way fails. -/
def Settles : Nat → MemoryStore → Prop
  | 0, _ => False
  | bound + 1, store => ∀ now, ∃ outcome after,
    store.nextPass settings now ns name = (some (.ok outcome), after) ∧
      (outcome.requeue = true ∧ Settles bound after ∨
        outcome.requeue = false ∧ after.Rests settings ns name outcome)

variable {settings : Settings} {ns name : String} {store : MemoryStore}

theorem Settles.succ {bound : Nat} (h : Settles settings ns name bound store) :
    Settles settings ns name (bound + 1) store := by
  induction bound generalizing store with
  | zero => exact h.elim
  | succ bound ih =>
      intro now
      obtain ⟨outcome, after, hpass, hrest⟩ := h now
      exact ⟨outcome, after, hpass, hrest.imp_left fun hgoes => ⟨hgoes.1, ih hgoes.2⟩⟩

theorem Settles.mono {bound bound' : Nat} (h : Settles settings ns name bound store)
    (hle : bound ≤ bound') : Settles settings ns name bound' store := by
  induction hle with
  | refl => exact h
  | step _ ih => exact ih.succ

theorem Rests.settles {outcome : Outcome} (h : store.Rests settings ns name outcome)
    (hrequeue : outcome.requeue = false) : Settles settings ns name 1 store :=
  fun now => ⟨outcome, store, h now, Or.inr ⟨hrequeue, h⟩⟩

end MemoryStore

/-- The pass over a cluster as it is stored. -/
def Interconnect.freshPass (cluster : Interconnect) (ns : String) (settings : Settings)
    (now : Timestamp) : Pass := ⟨cluster, ns, settings, now, cluster.statusOrNew⟩

theorem Interconnect.reconcile_eq {cluster : Interconnect} {ns : String}
    (h : cluster.metadata.ns = some ns) (settings : Settings) (now : Timestamp) :
    reconcile settings now cluster = (cluster.freshPass ns settings now).program := by
  rw [reconcile, h]
  rfl

namespace MemoryStore

open Program

variable {settings : Settings} {ns : String} {store : MemoryStore} {cluster : Interconnect}

theorem Fresh.nextPass (h : store.Fresh ns cluster) {now : Timestamp}
    {result : Except Error Outcome} {after : MemoryStore}
    (hrun : (cluster.freshPass ns settings now).program.run runner store = (result, after)) :
    store.nextPass settings now ns cluster.name = (some result, after) := by
  have hpass : store.pass settings now cluster = (result, after) := by
    rw [← hrun, pass, reconcile, h.space]
    rfl
  rw [MemoryStore.nextPass, h.found]
  dsimp only
  rw [hpass]

/-- Where each pass goes on to a store that settles, one more pass is needed. -/
theorem Fresh.settles_of_next (h : store.Fresh ns cluster) {bound : Nat}
    (hnext : ∀ now, ∃ outcome after,
      (cluster.freshPass ns settings now).program.run runner store = (.ok outcome, after) ∧
        outcome.requeue = true ∧ Settles settings ns cluster.name bound after) :
    Settles settings ns cluster.name (bound + 1) store := by
  intro now
  obtain ⟨outcome, after, hrun, hgoes⟩ := hnext now
  exact ⟨outcome, after, h.nextPass hrun, Or.inl hgoes⟩

/-- A status that is written in a pass is stored, and the pass ends. -/
theorem Fresh.run_writeStatus (h : store.Fresh ns cluster) (settings : Settings) (now : Timestamp)
    (status : InterconnectStatus) :
    ∃ after version,
      ((cluster.freshPass ns settings now).writeStatus status).run runner store =
        (.ok .statusUpdated, after) ∧
      after.Fresh ns (({ cluster with status := some status } : Interconnect).under version) ∧
      after.SameServing store := by
  obtain ⟨after, version, hcall, hfresh, hsame⟩ := h.writeStatus status
  exact ⟨after, version, run_call_of_ok hcall _, hfresh, hsame⟩

end MemoryStore

/-- A cluster was seen before, has its defaults, can be satisfied and did not fail. -/
structure Interconnect.Underway (cluster : Interconnect) (settings : Settings) : Prop where
  touched : cluster.statusOrNew.revNumber ≠ ""
  defaults : cluster.spec.HasDefaults
  satisfiable : cluster.spec.Satisfiable settings
  phase : cluster.statusOrNew.phase ≠ .failed

theorem Interconnect.Underway.continues {cluster next : Interconnect} {settings : Settings}
    (h : cluster.Underway settings) (hnext : cluster.Continues next) : next.Underway settings := by
  obtain ⟨⟨status, version, rfl⟩, hphase, hrev⟩ := hnext
  exact ⟨hrev ▸ h.touched, h.defaults, h.satisfiable, hphase ▸ h.phase⟩

namespace MemoryStore

open Program

variable {settings : Settings} {ns : String} {store : MemoryStore} {cluster : Interconnect}

/-- A pass over a cluster underway walks the checklist. -/
theorem Fresh.program_eq (underway : cluster.Underway settings) (ns : String) (now : Timestamp) :
    (cluster.freshPass ns settings now).program = (cluster.freshPass ns settings now).walk
      (cluster.spec.sslProfiles.any (·.isIncomplete) && settings.capabilities.certManager) :=
  (Pass.program_of_defaults underway.touched underway.defaults).trans
    (Pass.afterDefaults_of_open underway.satisfiable underway.phase _)

/-- With nothing left to issue and all goals met, a pass reports the pods. -/
theorem Fresh.run_of_met (underway : cluster.Underway settings) (ready : cluster.spec.Ready)
    (hgoals : ∀ goal ∈ cluster.goals settings, cluster.Meets settings store ns goal)
    (now : Timestamp) :
    (cluster.freshPass ns settings now).program.run runner store =
      (cluster.freshPass ns settings now).aggregatePods.run runner store := by
  rw [program_eq underway, ready.any_isIncomplete, Bool.false_and, Pass.walk, run_bind,
    ((cluster.freshPass ns settings now).passes_stages store).of_goal hgoals]

/-- Its calls are those of the checklist, and then those of the report. -/
theorem Fresh.trace_of_met (underway : cluster.Underway settings) (ready : cluster.spec.Ready)
    (hgoals : ∀ goal ∈ cluster.goals settings, cluster.Meets settings store ns goal)
    (now : Timestamp) :
    (cluster.freshPass ns settings now).program.trace runner store =
      (firstSome ((cluster.freshPass ns settings now).stages false)).trace runner store ++
        (cluster.freshPass ns settings now).aggregatePods.trace runner store := by
  rw [program_eq underway, ready.any_isIncomplete, Bool.false_and, Pass.walk, trace_bind,
    ((cluster.freshPass ns settings now).passes_stages store).of_goal hgoals]

/-- With the pods reported as well the store rests. -/
theorem Fresh.rests (h : store.Fresh ns cluster) (underway : cluster.Underway settings)
    (ready : cluster.spec.Ready)
    (hgoals : ∀ goal ∈ cluster.goals settings, cluster.Meets settings store ns goal)
    (hrunning : cluster.statusOrNew.phase = .running)
    (hpods : cluster.statusOrNew.pods = store.livePods ns cluster.labelSelector) :
    store.Rests settings ns cluster.name .idle := by
  intro now
  refine h.nextPass ?_
  rw [Fresh.run_of_met underway ready hgoals, Pass.run_aggregatePods,
    if_pos ⟨hpods.symm, hrunning.symm⟩]
  rfl

/-- With all goals met the pods are reported, unless they are, and then the store rests. -/
theorem Fresh.settles_of_met (h : store.Fresh ns cluster) (underway : cluster.Underway settings)
    (ready : cluster.spec.Ready)
    (hgoals : ∀ goal ∈ cluster.goals settings, cluster.Meets settings store ns goal) :
    Settles settings ns cluster.name 2 store := by
  let pods := store.livePods ns cluster.labelSelector
  by_cases hreported : pods = cluster.statusOrNew.pods ∧ .running = cluster.statusOrNew.phase
  · exact ((h.rests underway ready hgoals hreported.2.symm hreported.1.symm).settles rfl).succ
  · refine h.settles_of_next fun now => ?_
    let status := { cluster.statusOrNew with phase := .running, pods }
    obtain ⟨after, version, hrun, hfresh, hsame⟩ := h.run_writeStatus settings now status
    refine ⟨.statusUpdated, after, ?_, rfl, ?_⟩
    · rw [Fresh.run_of_met underway ready hgoals, Pass.run_aggregatePods,
        if_neg (by exact hreported)]
      exact hrun
    · have hpods : pods = after.livePods ns cluster.labelSelector := by
        unfold pods livePods
        rw [hsame.podsIn]
      have hmet : ∀ goal ∈ cluster.goals settings, cluster.Meets settings after ns goal :=
        fun goal hgoal => (Pass.pursues_goals (cluster.freshPass ns settings now) ready goal
          hgoal).congr (hgoals goal hgoal) hsame
      have hrestated : cluster.Restated
          (({ cluster with status := some status } : Interconnect).under version) :=
        ⟨_, _, rfl⟩
      rw [← (hrestated.goals settings).2.2] at hmet
      exact (hfresh.rests ⟨underway.touched, underway.defaults, underway.satisfiable, by simp
        [Interconnect.under, Interconnect.statusOrNew, status]⟩ ready hmet rfl hpods).settles rfl

/-- Where some goal in front of the rest of the checklist is not met, a pass is needed to meet one
more. -/
theorem Fresh.settles_of_unmet {bound : Nat} {done todo : List Goal} (h : store.Fresh ns cluster)
    (underway : cluster.Underway settings)
    (hstages : ∀ now, ∃ rest, (cluster.freshPass ns settings now).stages
        (cluster.spec.sslProfiles.any (·.isIncomplete) && settings.capabilities.certManager) =
      (done ++ todo).map (cluster.freshPass ns settings now).stageFor ++ rest)
    (hpursued : ∀ now, ∀ goal ∈ done ++ todo, (cluster.freshPass ns settings now).Pursues goal)
    (hdone : ∀ goal ∈ done, cluster.Meets settings store ns goal)
    (htodo : ¬ ∀ goal ∈ todo, cluster.Meets settings store ns goal)
    (hlater : ∀ {after : MemoryStore} {next : Interconnect} {done' todo' : List Goal},
      after.Fresh ns next → cluster.Continues next → done' ++ todo' = done ++ todo →
      todo'.length < todo.length → (∀ goal ∈ done', next.Meets settings after ns goal) →
        Settles settings ns next.name bound after) :
    Settles settings ns cluster.name (bound + 1) store := by
  refine h.settles_of_next fun now => ?_
  obtain ⟨rest, hrest⟩ := hstages now
  obtain ⟨outcome, after, next, done', todo', hrun, hrequeue, hnext, hfresh, hlist, hless, hmet⟩ :=
    Pass.advance h rfl (hpursued now) hdone htodo rest
  have hsettles := hlater hfresh hnext hlist hless hmet
  refine ⟨outcome, after, ?_, hrequeue, ?_⟩
  · rw [program_eq underway, Pass.walk, hrest, run_bind, hrun]
    rfl
  · obtain ⟨status, version, rfl⟩ := hnext.restated
    exact hsettles

/-- With some goals met a pass is needed for each of the others, one for the pods, and one that
finds nothing to do. -/
theorem Fresh.settles_of_done (n : Nat) {done todo : List Goal} (h : store.Fresh ns cluster)
    (underway : cluster.Underway settings) (ready : cluster.spec.Ready)
    (hlist : done ++ todo = cluster.goals settings) (hlength : todo.length ≤ n)
    (hdone : ∀ goal ∈ done, cluster.Meets settings store ns goal) :
    Settles settings ns cluster.name (n + 2) store := by
  induction n generalizing store cluster done todo with
  | zero =>
      have hnil : todo = [] := List.length_eq_zero_iff.mp (Nat.le_zero.mp hlength)
      rw [hnil, List.append_nil] at hlist
      exact h.settles_of_met underway ready (hlist ▸ hdone)
  | succ n ih =>
      by_cases htodo : ∀ goal ∈ todo, cluster.Meets settings store ns goal
      · refine (h.settles_of_met underway ready ?_).mono (by omega)
        rw [← hlist]
        exact List.forall_mem_append.mpr ⟨hdone, htodo⟩
      · refine h.settles_of_unmet underway (fun now => ⟨[], ?_⟩) (fun now => ?_) hdone htodo ?_
        · rw [ready.any_isIncomplete, Bool.false_and, Pass.stages_eq_goals, List.append_nil, hlist]
          rfl
        · rw [hlist]
          exact Pass.pursues_goals (cluster.freshPass ns settings now) ready
        · intro after next done' todo' hfresh hnext hlist' hless hdone'
          have hunderway := underway.continues hnext
          obtain ⟨status, version, rfl⟩ := hnext.restated
          exact ih hfresh hunderway ready (hlist'.trans hlist) (by omega) hdone'

/-- With the authority in place a pass issues a piece that was missing and stores its secret. -/
theorem Fresh.run_of_authority (h : store.Fresh ns cluster) (underway : cluster.Underway settings)
    (lacking : cluster.spec.sslProfiles.any (·.isIncomplete) = true)
    (hdistinct : (cluster.spec.sslProfiles.map (·.name)).Nodup)
    (hmet : ∀ goal ∈ cluster.accessGoals ++ cluster.authorityGoals,
      cluster.Meets settings store ns goal) (now : Timestamp) :
    ∃ outcome after version profiles,
      (cluster.freshPass ns settings now).program.run runner store = (.ok outcome, after) ∧
      outcome.requeue = true ∧
      after.Fresh ns (({ cluster with
        spec := { cluster.spec with sslProfiles := profiles } } : Interconnect).under version) ∧
      profiles.map (·.name) = cluster.spec.sslProfiles.map (·.name) ∧
      SslProfile.missingIn profiles + 1 = cluster.spec.missing ∧
      ∀ goal ∈ cluster.accessGoals ++ cluster.authorityGoals,
        cluster.Meets settings after ns goal := by
  let pass := cluster.freshPass ns settings now
  obtain ⟨step, hstep⟩ := Interconnect.exists_pendingStep lacking
  obtain ⟨profiles, hstamped, hnames, hmissing⟩ :=
    Interconnect.stamped_of_pending hdistinct hstep
  obtain ⟨outcome, after, version, hrun, hrequeue, hfresh, hkept⟩ :=
    pass.run_issueStage h hstep
  rw [show pass.cluster.stamped step = _ from hstamped] at hfresh
  obtain ⟨rest, hstages⟩ := pass.stages_eq_authority
  have hpasses : ∀ stage ∈ (pass.cluster.accessGoals ++ pass.cluster.authorityGoals).map
      pass.stageFor, stage.run runner store = (.ok none, store) := by
    rw [List.forall_mem_map]
    exact fun goal hgoal => (pass.passes_stageFor goal).of_goal (hmet goal hgoal)
  refine ⟨outcome, after, version, profiles, ?_, hrequeue, hfresh, hnames, hmissing,
    fun goal hgoal => hkept goal ?_ (hmet goal hgoal)⟩
  · rw [program_eq underway, lacking, underway.satisfiable.certManager lacking, Bool.true_and,
      Pass.walk, hstages, run_bind, run_firstSome_append hpasses, run_firstSome_of_some hrun]
    rfl
  · rcases List.mem_append.mp hgoal with hgoal | hgoal
    · exact pass.pursues_accessGoals goal hgoal
    · exact pass.pursues_authorityGoals goal hgoal

theorem length_servingGoals (cluster : Interconnect) (settings : Settings) :
    (cluster.servingGoals settings).length = 3 + cluster.spec.exposedListeners.length := by
  rw [Interconnect.servingGoals, List.length_append, List.length_map]
  rfl

/-- The goals in front of the issuing stage do not depend on the cluster that they are met for. -/
theorem meets_authority (cluster other : Interconnect) {goal : Goal}
    (hgoal : goal ∈ cluster.accessGoals ++ cluster.authorityGoals)
    (h : cluster.Meets settings store ns goal) : other.Meets settings store ns goal := by
  cases goal with
  | object kind desired => exact h
  | workload =>
      unfold Interconnect.accessGoals Interconnect.authorityGoals at hgoal
      split at hgoal <;> simp at hgoal

/-- With the authority in place a piece is issued. If later ones settle as promised, so does this
one; if there are none, the rest of the checklist is walked. -/
theorem Fresh.settles_of_authority {bound : Nat} (h : store.Fresh ns cluster)
    (underway : cluster.Underway settings)
    (lacking : cluster.spec.sslProfiles.any (·.isIncomplete) = true)
    (hdistinct : (cluster.spec.sslProfiles.map (·.name)).Nodup)
    (hmet : ∀ goal ∈ cluster.accessGoals ++ cluster.authorityGoals,
      cluster.Meets settings store ns goal)
    (hbound : 5 + cluster.spec.exposedListeners.length ≤ bound)
    (hlater : ∀ {after : MemoryStore} {next : Interconnect}, after.Fresh ns next →
      next.Underway settings → next.spec.sslProfiles.any (·.isIncomplete) = true →
      (next.spec.sslProfiles.map (·.name)).Nodup →
      (∀ goal ∈ next.accessGoals ++ next.authorityGoals, next.Meets settings after ns goal) →
      next.spec.missing + 1 = cluster.spec.missing →
      next.spec.exposedListeners = cluster.spec.exposedListeners →
        Settles settings ns next.name bound after) :
    Settles settings ns cluster.name (bound + 1) store := by
  refine h.settles_of_next fun now => ?_
  obtain ⟨outcome, after, version, profiles, hrun, hrequeue, hfresh, hnames, hmissing, hkept⟩ :=
    h.run_of_authority underway lacking hdistinct hmet now
  refine ⟨outcome, after, hrun, hrequeue, ?_⟩
  let next := ({ cluster with
    spec := { cluster.spec with sslProfiles := profiles } } : Interconnect).under version
  have hdefaults : next.spec.HasDefaults := underway.defaults.withProfiles hnames
  have hunderway : next.Underway settings :=
    ⟨underway.touched, hdefaults, Or.inl (underway.satisfiable.certManager lacking), underway.phase⟩
  have hmet' : ∀ goal ∈ next.accessGoals ++ next.authorityGoals,
      next.Meets settings after ns goal :=
    fun goal hgoal => meets_authority cluster next hgoal (hkept goal hgoal)
  cases hlacking : next.spec.sslProfiles.any (·.isIncomplete) with
  | true =>
      have hdistinct' : (next.spec.sslProfiles.map (·.name)).Nodup := by
        change (profiles.map (·.name)).Nodup
        rw [hnames]
        exact hdistinct
      have hsettles := hlater hfresh hunderway hlacking hdistinct' hmet' hmissing rfl
      exact hsettles
  | false =>
      have hready : next.spec.Ready := hdefaults.ready hlacking
      have hsettles := hfresh.settles_of_done (3 + cluster.spec.exposedListeners.length) hunderway
        hready rfl (Nat.le_of_eq (length_servingGoals next settings))
        fun goal hgoal => hmet' goal (List.mem_append_left _ hgoal)
      exact hsettles.mono (by omega)

/-- With some goals met a pass is needed for each of the others and one for each piece that is
missing; then the checklist is walked. -/
theorem Fresh.settles_of_lacking (m n : Nat) {done todo : List Goal} (h : store.Fresh ns cluster)
    (underway : cluster.Underway settings)
    (lacking : cluster.spec.sslProfiles.any (·.isIncomplete) = true)
    (hdistinct : (cluster.spec.sslProfiles.map (·.name)).Nodup)
    (hlist : done ++ todo = cluster.accessGoals ++ cluster.authorityGoals)
    (hlength : todo.length ≤ n) (hmissing : cluster.spec.missing ≤ m)
    (hdone : ∀ goal ∈ done, cluster.Meets settings store ns goal) :
    Settles settings ns cluster.name (n + m + 5 + cluster.spec.exposedListeners.length) store := by
  -- a pass either meets a goal or issues a piece; issuing keeps the goals met, so the pieces come
  -- first in the order that decreases
  induction m generalizing n store cluster done todo with
  | zero =>
      have hpos : 0 < cluster.spec.missing := SslProfile.missingIn_pos lacking
      omega
  | succ m ihm =>
      induction n generalizing store cluster done todo with
      | zero =>
          have hnil : todo = [] := List.length_eq_zero_iff.mp (Nat.le_zero.mp hlength)
          rw [hnil, List.append_nil] at hlist
          have hsettles : Settles settings ns cluster.name
              (m + 5 + cluster.spec.exposedListeners.length + 1) store := by
            refine h.settles_of_authority underway lacking hdistinct (hlist ▸ hdone) (by omega) ?_
            intro after next hfresh hunderway hlacking hdistinct' hmet hless hsame
            have hlater := ihm 0 hfresh hunderway hlacking hdistinct' (List.append_nil _)
              (Nat.le_refl 0) (by omega) hmet
            rw [hsame] at hlater
            exact hlater.mono (by omega)
          exact hsettles.mono (by omega)
      | succ n ihn =>
          by_cases htodo : ∀ goal ∈ todo, cluster.Meets settings store ns goal
          · -- the goals on the list are met already, so nothing of it is left to do
            have hnone : ([] : List Goal).length ≤ n := Nat.zero_le n
            have hsettles := ihn h underway lacking hdistinct ((List.append_nil _).trans hlist)
              hnone hmissing (List.forall_mem_append.mpr ⟨hdone, htodo⟩)
            exact hsettles.mono (by omega)
          · have hsettles : Settles settings ns cluster.name
                (n + (m + 1) + 5 + cluster.spec.exposedListeners.length + 1) store := by
              refine h.settles_of_unmet underway (fun now => ?_) (fun now => ?_) hdone htodo ?_
              · obtain ⟨rest, hstages⟩ := (cluster.freshPass ns settings now).stages_eq_authority
                rw [lacking, underway.satisfiable.certManager lacking, Bool.true_and, hlist]
                exact ⟨_, hstages⟩
              · let pass := cluster.freshPass ns settings now
                rw [hlist]
                exact List.forall_mem_append.mpr
                  ⟨pass.pursues_accessGoals, pass.pursues_authorityGoals⟩
              · intro after next done' todo' hfresh hnext hlist' hless hdone'
                have hunderway := underway.continues hnext
                obtain ⟨status, version, rfl⟩ := hnext.restated
                exact ihn hfresh hunderway lacking hdistinct (hlist'.trans hlist) (by omega)
                  hmissing hdone'
            exact hsettles.mono (by omega)

end MemoryStore

end RouterOperator
