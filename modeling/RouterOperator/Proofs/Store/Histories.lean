import RouterOperator.Proofs.Store.Runs

/-!
# Histories of a store in memory

A history is what has happened to a simulation since it was started, with the simulation as each
occurrence found it. Others may be permitted as much or as little as a statement needs. A pass may
be over any cluster that was stored when the history was started or at any time since, so it may be
as stale as it likes; throughout the history the store is in order and recalls all those clusters.
-/

namespace RouterOperator

namespace Simulation

/-- What may happen to a simulation. -/
inductive Occurrence where
  /-- Others put an object in place. -/
  | insert (kind : Kind) (object : kind.Object)
  /-- Others write a cluster, with or without the version that they have read. -/
  | editCluster (cluster : Interconnect)
  /-- Others write the status of a cluster. -/
  | editStatus (cluster : Interconnect)
  /-- A failure is planted for the next write. -/
  | plant (failure : PlantedFailure)
  /-- A failure is armed for a later write. -/
  | arm (after : Nat) (failure : PlantedFailure)
  /-- A pass runs over a cluster that was read before. -/
  | pass (snapshot : Interconnect) (settings : Settings) (now : Timestamp) (limits : PassLimits)

/-- The cluster that a pass is over. -/
def Occurrence.snapshot? : Occurrence → Option Interconnect
  | pass snapshot _ _ _ => some snapshot
  | _ => none

/-- The simulation after an occurrence. -/
def after (simulation : Simulation) : Occurrence → Simulation
  | .insert kind object => { simulation with store := simulation.store.insert kind object }
  | .editCluster cluster => (simulation.call (.replaceCluster cluster)).2
  | .editStatus cluster => (simulation.call (.replaceStatus cluster)).2
  | .plant failure => { simulation with store := simulation.store.plant failure }
  | .arm after failure => simulation.arm after failure
  | .pass snapshot settings now limits => (simulation.pass settings now limits snapshot).2

/-- A cluster was stored at some time, now or when something happened. -/
def WasStored (past : List (Simulation × Occurrence)) (current : Simulation)
    (cluster : Interconnect) : Prop :=
  ∃ state ∈ past.map Prod.fst ++ [current], ∃ ns name,
    state.store.cluster? ns name = some cluster

/-- What may have happened since a start, the oldest first, and what that has led to. -/
inductive History (start : Simulation) (permits : Simulation → Occurrence → Prop) :
    List (Simulation × Occurrence) → Simulation → Prop where
  | start : History start permits [] start
  | step {past current occurrence} (history : History start permits past current)
    (permitted : permits current occurrence)
    (read : ∀ snapshot ∈ occurrence.snapshot?, WasStored past current snapshot) :
    History start permits (past ++ [(current, occurrence)]) (current.after occurrence)

variable {start current : Simulation} {permits : Simulation → Occurrence → Prop}
  {past : List (Simulation × Occurrence)} {seen : List Interconnect}

/-- Whatever happens, the store stays in order and forgets no cluster. -/
theorem Sound.after (h : current.Sound seen) (occurrence : Occurrence) :
    (current.after occurrence).Sound seen := by
  cases occurrence with
  | insert kind object =>
      exact ⟨h.wellFormed.insert kind object,
        fun snapshot hseen => (h.recalls snapshot hseen).put _ _⟩
  | editCluster cluster => exact h.call trivial
  | editStatus cluster => exact h.call trivial
  | plant failure => exact h.sameObjects ⟨rfl, rfl, rfl⟩
  | arm after failure => exact h.sameObjects (.refl _)
  | pass snapshot settings now limits => exact h.pass settings now limits snapshot

/-- What has happened was permitted at its time. -/
theorem History.permits_of_mem (history : History start permits past current) :
    ∀ entry ∈ past, permits entry.1 entry.2 := by
  induction history with
  | start => simp
  | step history permitted read ih =>
      exact List.forall_mem_append.mpr ⟨ih, List.forall_mem_singleton.mpr permitted⟩

/-- A history is one also where more is permitted. -/
theorem History.imp {permits' : Simulation → Occurrence → Prop}
    (history : History start permits past current)
    (h : ∀ state occurrence, permits state occurrence → permits' state occurrence) :
    History start permits' past current := by
  induction history with
  | start => exact .start
  | step history permitted read ih => exact ih.step (h _ _ permitted) read

theorem History.wellFormed (history : History start permits past current)
    (wellFormed : start.store.WellFormed) : current.store.WellFormed := by
  induction history with
  | start => exact wellFormed
  | @step past current occurrence history permitted read ih =>
      have hsound : current.Sound [] := ⟨ih, by simp⟩
      exact (hsound.after occurrence).wellFormed

/-- A cluster that was stored is stored now, or it was so before the last thing happened. -/
theorem WasStored.cases {snapshot : Interconnect} {occurrence : Occurrence}
    (h : WasStored (past ++ [(current, occurrence)]) (current.after occurrence) snapshot) :
    WasStored past current snapshot ∨
      ∃ ns name, (current.after occurrence).store.cluster? ns name = some snapshot := by
  obtain ⟨state, hstate, hstores⟩ := h
  rw [List.map_append, List.mem_append] at hstate
  rcases hstate with hbefore | hnow
  · exact .inl ⟨state, hbefore, hstores⟩
  · obtain rfl : state = current.after occurrence := by simpa using hnow
    exact .inr hstores

theorem History.recalls (history : History start permits past current)
    (wellFormed : start.store.WellFormed) {snapshot : Interconnect}
    (read : WasStored past current snapshot) : current.store.Recalls snapshot := by
  induction history with
  | start =>
      obtain ⟨state, hstate, ns, name, hfound⟩ := read
      obtain rfl : state = start := by simpa using hstate
      exact wellFormed.recalls hfound
  | @step past current occurrence history permitted hread ih =>
      rcases read.cases with hbefore | ⟨ns, name, hfound⟩
      · have hsound : current.Sound [snapshot] :=
          ⟨history.wellFormed wellFormed, by simpa using ih hbefore⟩
        exact (hsound.after occurrence).recalls snapshot (List.mem_singleton_self _)
      · exact ((history.step permitted hread).wellFormed wellFormed).recalls hfound

/-- Throughout a history the store is in order and recalls every cluster that was stored at any
time. -/
theorem History.sound (history : History start permits past current)
    (wellFormed : start.store.WellFormed) {snapshot : Interconnect}
    (read : WasStored past current snapshot) : current.Sound [snapshot] :=
  ⟨history.wellFormed wellFormed, by simpa using history.recalls wellFormed read⟩

end Simulation

end RouterOperator
