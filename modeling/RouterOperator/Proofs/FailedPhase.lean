import RouterOperator.Proofs.Alarms
import RouterOperator.Proofs.Order
import RouterOperator.Proofs.Settling
import RouterOperator.Proofs.Shape
import RouterOperator.Proofs.Store.Histories
import RouterOperator.Proofs.Store.Strikes

/-!
# The phase `Failed`

A cluster fails in one way only: a pass that cannot issue certificates finds a profile that needs
them, in a specification with its defaults, and reports that once. While this is so nothing else
happens, and as soon as it is no longer so the next pass leaves the phase and does nothing else.
-/

namespace RouterOperator

namespace MemoryStore

variable {store : MemoryStore}

end MemoryStore

namespace Simulation

open Program MemoryStore

variable {simulation : Simulation} {pass : Pass} {ns name : String}

section fresh

variable {cluster : Interconnect} {settings : Settings} {now : Timestamp} {limits : PassLimits}

section failed

variable (touched : cluster.statusOrNew.revNumber ≠ "")
  (failed : cluster.statusOrNew.phase = .failed)

include touched failed

end failed

end fresh

/-- The stored phase is `Failed`. -/
def HasFailed (simulation : Simulation) (ns name : String) : Prop :=
  (simulation.store.statusOf ns name).phase = .failed

instance (simulation : Simulation) (ns name : String) : Decidable (simulation.HasFailed ns name) :=
  inferInstanceAs (Decidable (_ = _))

/-- A pass that could issue no certificates, over a specification with its defaults in which a
profile needs one, has written the status and answers that it is blocked, for the profiles that are
in need. -/
structure BlockedPass (before : Simulation) (ns name : String) (snapshot : Interconnect)
    (settings : Settings) (now : Timestamp) (limits : PassLimits) : Prop where
  certManager : settings.capabilities.certManager = false
  defaults : snapshot.spec.HasDefaults
  lacking : ∃ profile ∈ snapshot.spec.sslProfiles, profile.isIncomplete = true
  result : (before.pass settings now limits snapshot).1 = .ok (.blocked (Pass.blockedReason
    ((snapshot.spec.sslProfiles.filter (·.isIncomplete)).map (·.name))))
  writes : (before.pass settings now limits snapshot).2.store.statusWrites ns name =
    before.store.statusWrites ns name + 1

/-- What happens either raises no alarm, or it is a pass that is blocked over a cluster that had not
failed before. -/
inductive Alarm (before : Simulation) (occurrence : Occurrence) (ns name : String) : Prop where
  | none (unalarmed : (before.after occurrence).store.Unalarmed before.store ns name)
  | raised {snapshot settings now limits}
    (is_pass : occurrence = .pass snapshot settings now limits)
    (blocked : before.BlockedPass ns name snapshot settings now limits)
    (unfailed : ¬ before.HasFailed ns name) (failed : (before.after occurrence).HasFailed ns name)
    (touched : ((before.after occurrence).store.statusOf ns name).revNumber ≠ "")
    (warnings : (before.after occurrence).store.warnings = before.store.warnings ++
      [⟨.warning, "Failed", Pass.blockedReason snapshot.spec.unsatisfiable⟩])

variable {start current : Simulation} {past : List (Simulation × Occurrence)}

/-- The phase becomes `Failed` by what happens. -/
def fails (ns name : String) (step : Simulation × Occurrence) : Bool :=
  decide (¬ step.1.HasFailed ns name ∧ (step.1.after step.2).HasFailed ns name)

/-- The warning for a pass by which the phase becomes `Failed`. -/
def warningFor (step : Simulation × Occurrence) : Notice :=
  ⟨.warning, "Failed",
    Pass.blockedReason ((step.2.snapshot?.map (·.spec.unsatisfiable)).getD [])⟩

/-- The last time that the status was written, a pass was blocked. -/
def LastBlocked (past : List (Simulation × Occurrence)) (current : Simulation)
    (ns name : String) : Prop :=
  ∃ front before snapshot settings now limits rest,
    past = front ++ (before, .pass snapshot settings now limits) :: rest ∧
      before.BlockedPass ns name snapshot settings now limits ∧
      current.store.statusWrites ns name =
        (before.pass settings now limits snapshot).2.store.statusWrites ns name

theorem LastBlocked.concat (h : LastBlocked past current ns name) {next : Simulation}
    (step : Simulation × Occurrence)
    (hwrites : next.store.statusWrites ns name = current.store.statusWrites ns name) :
    LastBlocked (past ++ [step]) next ns name := by
  obtain ⟨front, before, snapshot, settings, now, limits, rest, rfl, hblocked, hlast⟩ := h
  refine ⟨front, before, snapshot, settings, now, limits, rest ++ [step], ?_, hblocked,
    hwrites.trans hlast⟩
  rw [List.append_assoc, List.cons_append]

/-- What holds throughout a history: a cluster that has failed was seen before, its status was last
written by a pass that was blocked, and there was one warning each time that it failed. -/
structure Alarms (start current : Simulation) (past : List (Simulation × Occurrence))
    (ns name : String) : Prop where
  touched : ∀ state ∈ past.map Prod.fst ++ [current], state.HasFailed ns name →
    (state.store.statusOf ns name).revNumber ≠ ""
  blocked : current.HasFailed ns name → LastBlocked past current ns name
  warnings : current.store.warnings =
    start.store.warnings ++ (past.filter (fails ns name)).map warningFor

/-- What happens keeps this. -/
theorem Alarms.step (h : Alarms start current past ns name) {occurrence : Occurrence}
    (halarm : current.Alarm occurrence ns name) :
    Alarms start (current.after occurrence) (past ++ [(current, occurrence)]) ns name := by
  have hseen (htouched : (current.after occurrence).HasFailed ns name →
      ((current.after occurrence).store.statusOf ns name).revNumber ≠ "") :
      ∀ state ∈ (past ++ [(current, occurrence)]).map Prod.fst ++ [current.after occurrence],
        state.HasFailed ns name → (state.store.statusOf ns name).revNumber ≠ "" := by
    rw [List.map_append, List.forall_mem_append]
    exact ⟨h.touched, by simpa using htouched⟩
  cases halarm with
  | none unalarmed =>
      have hkept (hfailed : (current.after occurrence).HasFailed ns name) :
          (current.after occurrence).store.SameStatus current.store ns name :=
        unalarmed.status.resolve_right (not_not_intro hfailed)
      have hbefore (hfailed : (current.after occurrence).HasFailed ns name) :
          current.HasFailed ns name := by
        rw [HasFailed, ← (hkept hfailed).1]
        exact hfailed
      refine ⟨hseen fun hfailed => ?_, fun hfailed => ?_, ?_⟩
      · rw [(hkept hfailed).1]
        exact h.touched current (by simp) (hbefore hfailed)
      · exact (h.blocked (hbefore hfailed)).concat _ (hkept hfailed).2
      · have hstays : fails ns name (current, occurrence) = false :=
          decide_eq_false fun hfails => hfails.1 (hbefore hfails.2)
        rw [unalarmed.warnings, h.warnings, List.filter_append]
        simp [hstays]
  | @raised snapshot settings now limits is_pass blocked unfailed failed touched warnings =>
      subst is_pass
      refine ⟨hseen fun _ => touched, fun _ => ?_, ?_⟩
      · exact ⟨past, current, snapshot, settings, now, limits, [], rfl, blocked, rfl⟩
      · have hfails : fails ns name (current, .pass snapshot settings now limits) = true :=
          decide_eq_true ⟨unfailed, failed⟩
        rw [warnings, h.warnings, List.filter_append, List.map_append, List.append_assoc]
        simp [hfails, warningFor, Occurrence.snapshot?]

/-- A cluster whose only profile lacks its certificate, and that no pass has seen yet. -/
def unseenCluster : Interconnect :=
  ({ lackingCluster with status := none } : Interconnect).under (some "1")

/-- A run to where nothing but that cluster is stored. -/
def unseen : Simulation where
  store := ({} : MemoryStore).insert .interconnect unseenCluster

end Simulation

end RouterOperator
