import RouterOperator.Proofs.LostUpdate
import RouterOperator.Proofs.Store.Plans

/-!
# Failed passes can be erased

A planted failure strikes the first write of a pass, before which nothing was written. So a pass
that fails over a store in memory has changed nothing, and a pass over a fresh store fails for no
other reason. Leaving the failed passes out of a run leaves a run in which no failure was ever
planted.
-/

namespace RouterOperator

namespace MemoryStore

open Program

variable {store : MemoryStore} {settings : Settings} {now : Timestamp} {cluster : Interconnect}
  {ns : String}

/-- The store without the failure that may be planted. -/
def calm (store : MemoryStore) : MemoryStore := { store with failure := none }

theorem calm_of_failure_none (h : store.failure = none) : store.calm = store := by
  rw [calm, ← h]

theorem pass_eq_run (hns : cluster.metadata.ns = some ns) :
    store.pass settings now cluster =
      (Pass.program ⟨cluster, ns, settings, now, cluster.statusOrNew⟩).run runner store := by
  rw [MemoryStore.pass, reconcile, hns]

theorem pass_of_missing_namespace (hns : cluster.metadata.ns = none) :
    store.pass settings now cluster = (.error (.missingObjectKey "namespace"), store) := by
  rw [MemoryStore.pass, reconcile, hns]
  rfl

/-- Where a failure is planted, a pass writes nothing, or its first write is struck and that is
all. -/
theorem pass_of_failure {failure : PlantedFailure} (h : store.failure = some failure)
    (hns : cluster.metadata.ns = some ns) :
    (∃ outcome, store.pass settings now cluster = (.ok outcome, store)) ∨
      store.pass settings now cluster = (.error failure.error, store.calm) := by
  rw [pass_eq_run hns]
  obtain ⟨known, moves, outcome, planned, -, hrun⟩ :=
    store.exists_plan ⟨cluster, ns, settings, now, cluster.statusOrNew⟩
  rw [hrun]
  cases moves with
  | nil => exact .inl ⟨outcome, rfl⟩
  | cons move rest =>
      exact .inr (run_script_of_error (call_of_failure h (planned.first_isWrite rfl)))

/-- A pass over a fresh store ends with an outcome. -/
theorem Fresh.exists_outcome (h : store.Fresh ns cluster) (settings : Settings)
    (now : Timestamp) :
    ∃ outcome after, store.pass settings now cluster = (.ok outcome, after) := by
  rw [pass_eq_run h.space]
  obtain ⟨known, moves, outcome, planned, hknown, hrun⟩ :=
    store.exists_plan ⟨cluster, ns, settings, now, cluster.statusOrNew⟩
  obtain ⟨after, hscript⟩ := planned.carriesOut hknown h
  exact ⟨outcome, after, hrun.trans (hscript outcome)⟩

/-- No call plants a failure. -/
theorem call_failure_eq_none (h : store.failure = none) (request : StoreCall) :
    (store.call request).2.failure = none := by
  have hleaves := store.call_leaves request
  generalize (store.call request).2 = after at hleaves ⊢
  cases hleaves with
  | wrote effect => cases effect <;> exact h
  | struck => rfl
  | spared => exact h

theorem run_failure_eq_none {α : Type} (h : store.failure = none) (program : Program α) :
    (program.run runner store).2.failure = none := by
  induction program generalizing store with
  | done result => exact h
  | fail error => exact h
  | check before next ih => exact ih h
  | call request next ih =>
      have hafter := call_failure_eq_none h request
      cases hcall : store.call request with
      | mk answer after =>
          rw [hcall] at hafter
          have hcall : runner.call request store = (answer, after) := hcall
          cases answer with
          | error error =>
              rw [run_call_of_error hcall]
              exact hafter
          | ok reply =>
              rw [run_call_of_ok hcall]
              exact ih reply hafter

/-- A run that has met no planted failure is the same without the failure. -/
theorem run_calm {α : Type} {program : Program α} {result : α} {after : MemoryStore}
    {failure : PlantedFailure} (h : store.failure = some failure)
    (hrun : program.run runner store = (.ok result, after)) :
    program.run runner store.calm = (.ok result, after.calm) := by
  induction program generalizing store with
  | done value =>
      cases hrun
      rfl
  | fail error => cases hrun
  | check before next ih => exact ih h hrun
  | call request next ih =>
      cases hwrite : request.isWrite with
      | true =>
          have hcall : runner.call request store = (.error failure.error, _) :=
            call_of_failure h hwrite
          rw [run_call_of_error hcall] at hrun
          cases hrun
      | false =>
          cases request with
          | get | listPods => exact ih _ h hrun
          | publish about notice =>
              have hafter : ({ store with notices := store.notices ++ [notice] } :
                MemoryStore).failure = some failure := h
              exact ih () hafter hrun
          | _ => cases hwrite

end MemoryStore

/-- A step of a run of fresh passes: a failure is planted, somebody puts an object in place, or a
pass is made over the cluster that is stored. -/
inductive FreshStep where
  | plant (failure : PlantedFailure)
  | insert (kind : Kind) (object : kind.Object)
  | pass (settings : Settings) (now : Timestamp) (ns name : String)

/-- A step with the result of the pass, if it made one, and the store that it left. -/
structure StepRecord where
  step : FreshStep
  result : Option (Except Error Outcome) := none
  after : MemoryStore

/-- A record that stays when failures are erased. -/
def StepRecord.stays (entry : StepRecord) : Bool :=
  match entry.step, entry.result with
  | .plant _, _ | _, some (.error _) => false
  | _, _ => true

/-- The same record with no failure planted. -/
def StepRecord.calm (entry : StepRecord) : StepRecord :=
  { entry with after := entry.after.calm }

namespace MemoryStore

/-- Makes a step. -/
def record (store : MemoryStore) (step : FreshStep) : StepRecord :=
  match step with
  | .plant failure => { step, after := store.plant failure }
  | .insert kind object => { step, after := store.insert kind object }
  | .pass settings now ns name =>
    match store.cluster? ns name with
    | none => { step, after := store }
    | some cluster =>
      let (result, after) := store.pass settings now cluster
      { step, result, after }

/-- Makes steps in order. -/
def journal (store : MemoryStore) : List FreshStep → List StepRecord
  | [] => []
  | step :: rest => store.record step :: (store.record step).after.journal rest

variable {store : MemoryStore}

theorem record_step (store : MemoryStore) (step : FreshStep) : (store.record step).step = step := by
  cases step with
  | plant | insert => rfl
  | pass settings now ns name =>
      unfold record
      dsimp only
      split <;> rfl

theorem record_pass {settings : Settings} {now : Timestamp} {ns name : String}
    {cluster : Interconnect} {result : Except Error Outcome} {after : MemoryStore}
    (found : store.cluster? ns name = some cluster)
    (h : store.pass settings now cluster = (result, after)) :
    store.record (.pass settings now ns name) =
      { step := .pass settings now ns name, result := some result, after } := by
  unfold record
  dsimp only
  rw [found]
  dsimp only
  rw [h]

theorem WellFormed.fresh (h : store.WellFormed) {ns name space : String} {cluster : Interconnect}
    (found : store.cluster? ns name = some cluster) (hspace : cluster.metadata.ns = some space)
    (unharmed : store.failure = none) : store.Fresh space cluster := by
  have hfits := h.fits _ _ found
  have hns : cluster.space = ns := hfits.space rfl
  have hname : cluster.name = name := hfits.name
  have hsame : space = ns := by
    rw [← hns, Interconnect.space, ObjectMeta.anySpace, hspace]
    rfl
  refine ⟨h.fits, unharmed, ?_, hspace⟩
  rw [hsame, hname]
  exact found

theorem WellFormed.pass (h : store.WellFormed) (settings : Settings) (now : Timestamp)
    (cluster : Interconnect) : (store.pass settings now cluster).2.WellFormed := by
  cases hns : cluster.metadata.ns with
  | none =>
      rw [pass_of_missing_namespace hns]
      exact h
  | some ns =>
      exact (meets_reconcile settings now hns).run_invariant
        (fun state request hstate hcall => hstate.call hcall.isPlaced) h

theorem WellFormed.record (h : store.WellFormed) (step : FreshStep) :
    (store.record step).after.WellFormed := by
  cases step with
  | plant failure => exact h.sameObjects ⟨rfl, rfl, rfl⟩
  | insert kind object => exact h.insert kind object
  | pass settings now ns name =>
      unfold MemoryStore.record
      dsimp only
      split
      · exact h
      · exact h.pass settings now _

/-- A step that stays does without the planted failure what it did with it, and one that is erased
has changed nothing else. -/
theorem WellFormed.record_calm (h : store.WellFormed) (step : FreshStep) :
    if (store.record step).stays then store.calm.record step = (store.record step).calm
    else (store.record step).after.calm = store.calm := by
  cases step with
  | plant failure => rfl
  | insert kind object => rfl
  | pass settings now ns name =>
      cases found : store.cluster? ns name with
      | none =>
          have found' : store.calm.cluster? ns name = none := found
          simp only [MemoryStore.record, found, found']
          rfl
      | some cluster =>
          have found' : store.calm.cluster? ns name = some cluster := found
          cases hspace : cluster.metadata.ns with
          | none =>
              rw [record_pass found (pass_of_missing_namespace hspace)]
              rfl
          | some space =>
              cases hfailure : store.failure with
              | none =>
                  have fresh := h.fresh found hspace hfailure
                  obtain ⟨outcome, after, hpass⟩ := fresh.exists_outcome settings now
                  have hafter := run_failure_eq_none hfailure (reconcile settings now cluster)
                  have hcalm : after.calm = after := by
                    refine calm_of_failure_none ?_
                    rw [← show (store.pass settings now cluster).2 = after from
                      congrArg Prod.snd hpass]
                    exact hafter
                  rw [calm_of_failure_none hfailure, record_pass found hpass]
                  simp only [StepRecord.stays, StepRecord.calm, hcalm, if_true]
              | some failure =>
                  rcases pass_of_failure hfailure hspace with ⟨outcome, hpass⟩ | hpass
                  · have hpass' : store.calm.pass settings now cluster =
                        (.ok outcome, store.calm) := run_calm hfailure hpass
                    rw [record_pass found hpass, record_pass found' hpass']
                    rfl
                  · rw [record_pass found hpass]
                    rfl

/-- Without the steps that failed or planted a failure, a run from the store without a failure has
the same records: the same results and the same stores. -/
theorem WellFormed.journal_calm (h : store.WellFormed) (steps : List FreshStep) :
    store.calm.journal (((store.journal steps).filter StepRecord.stays).map StepRecord.step) =
      ((store.journal steps).filter StepRecord.stays).map StepRecord.calm := by
  induction steps generalizing store with
  | nil => rfl
  | cons step rest ih =>
      have hrest := ih (h.record step)
      have hstep := h.record_calm step
      rw [journal, List.filter_cons]
      cases hstays : (store.record step).stays with
      | true =>
          rw [hstays, if_pos rfl] at hstep
          rw [if_pos rfl, List.map_cons, List.map_cons, journal, record_step, hstep, ← hrest]
          rfl
      | false =>
          rw [hstays, if_neg Bool.false_ne_true] at hstep
          rw [if_neg Bool.false_ne_true, ← hstep]
          exact hrest

/-- A pass that fails over a store in which a failure is planted has consumed it and changed nothing
else. So the failed passes of a run over a store in order can be erased together with the failures:
what remains is a run without failures in which every pass has the same outcome and leaves the same
objects, versions, changes and notices. -/
theorem failed_passes_erasable (store : MemoryStore) :
    (∀ failure settings now ns cluster error, store.failure = some failure →
      cluster.metadata.ns = some ns → (store.pass settings now cluster).1 = .error error →
        error = failure.error ∧ (store.pass settings now cluster).2 = store.calm) ∧
      (store.WellFormed → ∀ steps,
        let kept := (store.journal steps).filter StepRecord.stays
        store.calm.journal (kept.map StepRecord.step) = kept.map StepRecord.calm ∧
          (∀ entry ∈ kept, ∀ error, entry.result ≠ some (.error error))) := by
  refine ⟨?_, fun h steps => ⟨h.journal_calm steps, ?_⟩⟩
  · intro failure settings now ns cluster error hfailure hns herror
    rcases pass_of_failure hfailure hns with ⟨outcome, hpass⟩ | hpass
    · rw [hpass] at herror
      cases herror
    · rw [hpass] at herror ⊢
      cases herror
      exact ⟨rfl, rfl⟩
  · intro entry hentry error hresult
    have hstays := (List.mem_filter.mp hentry).2
    unfold StepRecord.stays at hstays
    split at hstays
    · cases hstays
    · cases hstays
    next hother => exact hother _ hresult

theorem conflict_is_erased :
    let store := ({} : MemoryStore).insert .interconnect Simulation.firstRead
    let pass := FreshStep.pass {} default "msg" "amq"
    store.WellFormed ∧
      (store.journal [.plant .conflict, pass, pass]).map StepRecord.result =
        [none, some (.error (.conflict "injected conflict")), some (.ok .statusUpdated)] ∧
      (store.calm.journal [pass]).map StepRecord.result = [some (.ok .statusUpdated)] := by
  intro store pass
  have h : store.WellFormed := wellFormed_empty.insert .interconnect Simulation.firstRead
  obtain ⟨hjournal, -⟩ := (failed_passes_erasable store).2 h [.plant .conflict, pass, pass]
  have hkept : ((store.journal [.plant .conflict, pass, pass]).filter StepRecord.stays).map
      StepRecord.step = [pass] := rfl
  rw [hkept] at hjournal
  refine ⟨h, rfl, ?_⟩
  rw [hjournal]
  rfl

end MemoryStore

end RouterOperator
