import RouterOperator.Proofs.Settling

/-!
# Convergence

Passes over the freshly read cluster come to an end: whatever the store holds at first, after a
number of passes that the specification bounds one asks for no other, and all later ones repeat it.
The bound counts a pass for first contact, one for the defaults, one to leave a failed phase, six
for access and authority, two for every profile, one each for configuration, workload, service and
every exposed listener, one to report the pods, and the last one that finds nothing to do.
-/

namespace RouterOperator

namespace MemoryStore

open Program

section settles

variable {settings : Settings} {ns : String} {store : MemoryStore} {cluster : Interconnect}

/-- A cluster underway needs no more passes than its goals and its profiles. -/
theorem Fresh.settles_of_underway (h : store.Fresh ns cluster)
    (underway : cluster.Underway settings)
    (hdistinct : (cluster.spec.sslProfiles.map (·.name)).Nodup) :
    Settles settings ns cluster.name
      (11 + 2 * cluster.spec.sslProfiles.length + cluster.spec.exposedListeners.length) store := by
  have hmissing : cluster.spec.missing ≤ 2 * cluster.spec.sslProfiles.length :=
    SslProfile.missingIn_le _
  cases hlacking : cluster.spec.sslProfiles.any (·.isIncomplete) with
  | true =>
      have hlength : (cluster.accessGoals ++ cluster.authorityGoals).length ≤ 6 := by
        unfold Interconnect.accessGoals Interconnect.authorityGoals
        split <;> simp
      have hsettles := h.settles_of_lacking cluster.spec.missing 6 underway hlacking hdistinct
        (List.nil_append _) hlength (Nat.le_refl _) fun _ hgoal => nomatch hgoal
      exact hsettles.mono (by omega)
  | false =>
      have ready := underway.defaults.ready hlacking
      have hlength : (cluster.goals settings).length ≤
          6 + cluster.spec.exposedListeners.length := by
        rw [Interconnect.goals, List.length_append, length_servingGoals]
        change 3 + _ ≤ _
        omega
      have hsettles := h.settles_of_done _ underway ready (List.nil_append _) hlength
        fun _ hgoal => nomatch hgoal
      exact hsettles.mono (by omega)

/-- A cluster that failed and cannot be satisfied rests. -/
theorem Fresh.rests_of_failed (h : store.Fresh ns cluster)
    (htouched : cluster.statusOrNew.revNumber ≠ "") (defaults : cluster.spec.HasDefaults)
    (hclosed : ¬ cluster.spec.Satisfiable settings)
    (hfailed : cluster.statusOrNew.phase = .failed) :
    store.Rests settings ns cluster.name
      (.blocked (Pass.blockedReason cluster.spec.unsatisfiable)) := by
  intro now
  refine h.nextPass ?_
  rw [Pass.program_of_defaults htouched defaults, Pass.afterDefaults_of_unsatisfiable hclosed,
    Pass.block, if_neg (fun hne => hne hfailed)]
  rfl

/-- A cluster that cannot be satisfied is reported as failed, and then it rests. -/
theorem Fresh.settles_of_unsatisfiable (h : store.Fresh ns cluster)
    (htouched : cluster.statusOrNew.revNumber ≠ "") (defaults : cluster.spec.HasDefaults)
    (hclosed : ¬ cluster.spec.Satisfiable settings) :
    Settles settings ns cluster.name 1 store := by
  by_cases hfailed : cluster.statusOrNew.phase = .failed
  · exact (h.rests_of_failed htouched defaults hclosed hfailed).settles rfl
  · intro now
    let status := cluster.statusOrNew.on .blocked
    obtain ⟨after, version, hcall, hfresh, -⟩ := h.writeStatus status
    obtain ⟨last, hnotice, hlast, -⟩ := hfresh.publish { cluster with status := some status }
      ⟨.warning, "Failed", Pass.blockedReason cluster.spec.unsatisfiable⟩
    refine ⟨.blocked (Pass.blockedReason cluster.spec.unsatisfiable), last, h.nextPass ?_,
      Or.inr ⟨rfl, ?_⟩⟩
    · rw [Pass.program_of_defaults htouched defaults, Pass.afterDefaults_of_unsatisfiable hclosed,
        Pass.block, if_pos (by exact hfailed)]
      exact (run_call_of_ok hcall _).trans (run_call_of_ok hnotice _)
    · exact hlast.rests_of_failed htouched defaults hclosed rfl

/-- With its defaults a cluster needs one pass more, to leave a failed phase. -/
theorem Fresh.settles_of_defaults (h : store.Fresh ns cluster)
    (htouched : cluster.statusOrNew.revNumber ≠ "") (defaults : cluster.spec.HasDefaults)
    (hdistinct : (cluster.spec.sslProfiles.map (·.name)).Nodup) :
    Settles settings ns cluster.name
      (12 + 2 * cluster.spec.sslProfiles.length + cluster.spec.exposedListeners.length) store := by
  by_cases hopen : cluster.spec.Satisfiable settings
  · by_cases hfailed : cluster.statusOrNew.phase = .failed
    · have hsettles : Settles settings ns cluster.name
          (11 + 2 * cluster.spec.sslProfiles.length + cluster.spec.exposedListeners.length + 1)
          store := by
        refine h.settles_of_next fun now => ?_
        obtain ⟨after, version, hrun, hfresh, -⟩ :=
          h.run_writeStatus settings now (cluster.statusOrNew.on .unblocked)
        refine ⟨.statusUpdated, after, ?_, rfl, hfresh.settles_of_underway
          ⟨htouched, defaults, hopen, ?_⟩ hdistinct⟩
        · rw [Pass.program_of_defaults htouched defaults,
            Pass.afterDefaults_of_failed hopen hfailed]
          exact hrun
        · change (cluster.statusOrNew.phase.next .unblocked) ≠ .failed
          rw [hfailed]
          decide
      exact hsettles.mono (by omega)
    · exact (h.settles_of_underway ⟨htouched, defaults, hopen, hfailed⟩ hdistinct).mono (by omega)
  · exact (h.settles_of_unsatisfiable htouched defaults hopen).mono (by omega)

/-- A cluster that was seen before needs one pass more, to fill in the defaults. -/
theorem Fresh.settles_of_touched (h : store.Fresh ns cluster)
    (htouched : cluster.statusOrNew.revNumber ≠ "")
    (hdistinct : (cluster.spec.sslProfiles.map (·.name)).Nodup) {normalized : InterconnectSpec}
    (hnormalized : (cluster.spec.normalize settings.capabilities.certManager).spec = normalized) :
    Settles settings ns cluster.name
      (13 + 2 * normalized.sslProfiles.length + normalized.exposedListeners.length) store := by
  by_cases defaults : cluster.spec.HasDefaults
  · rw [(InterconnectSpec.normalize_spec_eq_iff _ _).mpr defaults] at hnormalized
    subst hnormalized
    exact (h.settles_of_defaults htouched defaults hdistinct).mono (by omega)
  · have hsettles : Settles settings ns cluster.name
        (12 + 2 * normalized.sslProfiles.length + normalized.exposedListeners.length + 1)
        store := by
      refine h.settles_of_next fun now => ?_
      obtain ⟨after, version, hcall, hfresh, -⟩ := h.writeSpec normalized
      subst hnormalized
      refine ⟨.specUpdated, after, ?_, rfl, hfresh.settles_of_defaults htouched
        (InterconnectSpec.hasDefaults_normalize _ _)
        (InterconnectSpec.nodup_names_normalize _ hdistinct)⟩
      rw [Pass.program_of_lacking htouched defaults]
      exact run_call_of_ok hcall _
    exact hsettles.mono (by omega)

/-- Any cluster that has a version needs one pass more, for first contact. -/
theorem Fresh.settles (h : store.Fresh ns cluster)
    (hversion : cluster.metadata.resourceVersion.getD "" ≠ "")
    (hdistinct : (cluster.spec.sslProfiles.map (·.name)).Nodup) {normalized : InterconnectSpec}
    (hnormalized : (cluster.spec.normalize settings.capabilities.certManager).spec = normalized) :
    Settles settings ns cluster.name
      (14 + 2 * normalized.sslProfiles.length + normalized.exposedListeners.length) store := by
  by_cases htouched : cluster.statusOrNew.revNumber = ""
  · have hsettles : Settles settings ns cluster.name
        (13 + 2 * normalized.sslProfiles.length + normalized.exposedListeners.length + 1)
        store := by
      refine h.settles_of_next fun now => ?_
      let seen := { cluster.statusOrNew.on .firstTouch with
        revNumber := cluster.metadata.resourceVersion.getD "" }
      obtain ⟨after, version, hrun, hfresh, -⟩ := h.run_writeStatus settings now
        (seen.reach now .provisioning "provision spec to desired state")
      refine ⟨.statusUpdated, after, ?_, rfl,
        hfresh.settles_of_touched hversion hdistinct hnormalized⟩
      rw [Pass.program_of_new htouched]
      exact hrun
    exact hsettles.mono (by omega)
  · exact (h.settles_of_touched htouched hdistinct hnormalized).mono (by omega)

end settles

/-- The store after a number of passes, each over the freshly read cluster and at its own time. -/
def passes (store : MemoryStore) (settings : Settings) (clock : Nat → Timestamp)
    (ns name : String) : Nat → MemoryStore
  | 0 => store
  | count + 1 =>
    ((store.passes settings clock ns name count).nextPass settings (clock count) ns name).2

/-- The result of the pass with this number, if there is a cluster. -/
def resultAt (store : MemoryStore) (settings : Settings) (clock : Nat → Timestamp)
    (ns name : String) (number : Nat) : Option (Except Error Outcome) :=
  ((store.passes settings clock ns name number).nextPass settings (clock number) ns name).1

variable {store : MemoryStore} {settings : Settings} {ns name : String}

/-- Passes may be counted from the second on. -/
theorem passes_succ (store : MemoryStore) (settings : Settings) (clock : Nat → Timestamp)
    (ns name : String) (count : Nat) :
    store.passes settings clock ns name (count + 1) =
      (store.nextPass settings (clock 0) ns name).2.passes settings (fun i => clock (i + 1)) ns name
        count := by
  induction count with
  | zero => rfl
  | succ count ih => rw [passes, ih, passes]

theorem resultAt_succ (store : MemoryStore) (settings : Settings) (clock : Nat → Timestamp)
    (ns name : String) (number : Nat) :
    store.resultAt settings clock ns name (number + 1) =
      (store.nextPass settings (clock 0) ns name).2.resultAt settings (fun i => clock (i + 1)) ns
        name number := by
  rw [resultAt, passes_succ, resultAt]

theorem Rests.passes {outcome : Outcome} (h : store.Rests settings ns name outcome)
    (clock : Nat → Timestamp) (count : Nat) :
    store.passes settings clock ns name count = store := by
  induction count with
  | zero => rfl
  | succ count ih => rw [MemoryStore.passes, ih, h]

theorem Rests.resultAt {outcome : Outcome} (h : store.Rests settings ns name outcome)
    (clock : Nat → Timestamp) (number : Nat) :
    store.resultAt settings clock ns name number = some (.ok outcome) := by
  rw [MemoryStore.resultAt, h.passes, h]

/-- What settles comes to rest at one of the passes within the bound. -/
theorem Settles.passes {bound : Nat} (h : Settles settings ns name bound store)
    (clock : Nat → Timestamp) :
    ∃ number outcome, number < bound ∧
      (∀ earlier < number, ∃ change,
        store.resultAt settings clock ns name earlier = some (.ok change) ∧
          change.requeue = true) ∧
      outcome.requeue = false ∧
      ∀ later, number ≤ later →
        store.resultAt settings clock ns name later = some (.ok outcome) ∧
          store.passes settings clock ns name (later + 1) =
            store.passes settings clock ns name (number + 1) := by
  induction bound generalizing store clock with
  | zero => exact h.elim
  | succ bound ih =>
      obtain ⟨first, after, hpass, ⟨hrequeue, hsettles⟩ | ⟨hrequeue, hrests⟩⟩ := h (clock 0)
      · -- the passes behind the first one are counted from zero again, by a clock of their own
        obtain ⟨number, outcome, hless, hearlier, hlast, hlater⟩ :=
          ih hsettles fun i => clock (i + 1)
        refine ⟨number + 1, outcome, by omega, ?_, hlast, ?_⟩
        · intro earlier hlt
          cases earlier with
          | zero => exact ⟨first, congrArg Prod.fst hpass, hrequeue⟩
          | succ earlier =>
              rw [resultAt_succ, hpass]
              exact hearlier earlier (by omega)
        · intro later hle
          cases later with
          | zero => omega
          | succ later =>
              rw [resultAt_succ, passes_succ store settings clock ns name (later + 1),
                passes_succ store settings clock ns name (number + 1), hpass]
              exact hlater later (by omega)
      · refine ⟨0, first, by omega, by omega, hrequeue, ?_⟩
        intro later _
        rw [passes_succ, passes_succ, hpass, hrests.passes, hrests.passes]
        refine ⟨?_, rfl⟩
        cases later with
        | zero => exact congrArg Prod.fst hpass
        | succ later =>
            rw [resultAt_succ, hpass]
            exact hrests.resultAt _ later

end MemoryStore

/-- Passes over a cluster with distinct profile names converge, whatever else is in the store, which
is in order as every store of a run is: within the bound one of them is idle or blocked, none before
it fails, and from then on every pass has the same outcome and leaves the whole store as it is. -/
theorem passes_converge {store : MemoryStore} (wellFormed : store.WellFormed)
    (unharmed : store.failure = none) (settings : Settings) (clock : Nat → Timestamp)
    {ns name : String} {cluster : Interconnect} (found : store.cluster? ns name = some cluster)
    (space : cluster.metadata.ns = some ns)
    (distinct : (cluster.spec.sslProfiles.map (·.name)).Nodup) :
    ∃ number outcome,
      number < 14 +
        2 * (cluster.spec.normalize settings.capabilities.certManager).spec.sslProfiles.length +
        (cluster.spec.normalize settings.capabilities.certManager).spec.exposedListeners.length ∧
      (∀ earlier < number, ∃ change,
        store.resultAt settings clock ns name earlier = some (.ok change) ∧
          change.requeue = true) ∧
      (outcome = .idle ∨ ∃ reason, outcome = .blocked reason) ∧
      ∀ later, number ≤ later →
        store.resultAt settings clock ns name later = some (.ok outcome) ∧
          store.passes settings clock ns name (later + 1) =
            store.passes settings clock ns name (number + 1) := by
  have hname : cluster.name = name := (wellFormed.fits _ _ found).name
  subst hname
  have hversion : cluster.metadata.resourceVersion.getD "" ≠ "" := by
    obtain ⟨issued, -, hissued⟩ := wellFormed.issued _ _ found
    have hversion : cluster.metadata.resourceVersion = some (toString issued) := hissued
    rw [hversion]
    exact Nat.repr_ne_empty
  have hfresh : store.Fresh ns cluster := ⟨wellFormed.fits, unharmed, found, space⟩
  have hsettles : MemoryStore.Settles settings ns cluster.name _ store :=
    hfresh.settles hversion distinct rfl
  obtain ⟨number, outcome, hless, hearlier, hrequeue, hlater⟩ := hsettles.passes clock
  refine ⟨number, outcome, hless, hearlier, ?_, hlater⟩
  cases outcome with
  | idle => exact Or.inl rfl
  | blocked reason => exact Or.inr ⟨reason, rfl⟩
  | _ => cases hrequeue

/-- A store with a single cluster that asks for nothing in particular. -/
def bareStore : MemoryStore :=
  ({} : MemoryStore).insert .interconnect
    ({ metadata := { name := some "amq", ns := some "msg" }, spec := {} } : Interconnect)

/-- Where certificates can be issued the bare cluster gets one profile and exposes no listener. -/
theorem bareStore_converges :
    bareStore.WellFormed ∧ bareStore.failure = none ∧
      ∃ number outcome, number < 14 + 2 * 1 + 0 ∧
        (outcome = .idle ∨ ∃ reason, outcome = .blocked reason) ∧
        bareStore.resultAt ⟨⟨true, true⟩, defaultRouterImage⟩ (fun _ => default) "msg" "amq"
          number = some (.ok outcome) := by
  have hwellFormed : bareStore.WellFormed := MemoryStore.wellFormed_empty.insert _ _
  have found : bareStore.cluster? "msg" "amq" = some _ := rfl
  obtain ⟨number, outcome, hless, -, houtcome, hlater⟩ := passes_converge hwellFormed rfl
    ⟨⟨true, true⟩, defaultRouterImage⟩ (fun _ => default) found rfl List.nodup_nil
  exact ⟨hwellFormed, rfl, number, outcome, hless, houtcome, (hlater number (Nat.le_refl _)).1⟩

end RouterOperator
