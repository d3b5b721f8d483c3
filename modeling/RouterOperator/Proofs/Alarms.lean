import RouterOperator.Proofs.Action
import RouterOperator.Proofs.LostUpdate
import RouterOperator.Proofs.Plan

/-!
# Alarms

An alarm is a write of the phase `Failed` or a warning. Of all that a pass does only the report that
a specification cannot be satisfied raises one, so any other pass leaves the warnings alone and, if
it writes the status, writes another phase.
-/

namespace RouterOperator

/-- A call writes no phase `Failed`, not even as part of an object, and publishes no warning. -/
def StoreCall.RaisesNoAlarm : StoreCall → Prop
  | create kind _ _ | replace kind _ _ => kind ≠ .interconnect
  | replaceStatus cluster => cluster.statusOrNew.phase ≠ .failed
  | publish _ notice => notice.severity ≠ .warning
  | get _ _ _ | listPods _ _ | replaceCluster _ => True

namespace Pass

open Program

variable {pass : Pass} {kind : Kind} {desired : kind.Object}

section open_phase

variable (hphase : pass.status.phase ≠ .failed)

include hphase

end open_phase

/-- What a pass does to report that a specification cannot be satisfied. -/
def report (pass : Pass) : Program Outcome :=
  script (.blocked (blockedReason pass.cluster.spec.unsatisfiable))
    [⟨some "update Interconnect status", pass.statusWrite (pass.status.on .blocked)⟩,
      ⟨none, .publish { pass.cluster with status := some (pass.status.on .blocked) }
        ⟨.warning, "Failed", blockedReason pass.cluster.spec.unsatisfiable⟩⟩]

/-- A pass that finds a specification it cannot satisfy, for the first time since it could. -/
structure Reports (pass : Pass) : Prop where
  touched : pass.status.revNumber ≠ ""
  defaults : pass.cluster.spec.HasDefaults
  lacking : ¬ pass.cluster.spec.Satisfiable pass.settings
  phase : pass.status.phase ≠ .failed

theorem Reports.program_eq (h : pass.Reports) : pass.program = pass.report := by
  rw [program_of_blocked h.touched h.defaults h.lacking, block, if_pos h.phase]
  rfl

end Pass

namespace MemoryStore

variable {store before : MemoryStore} {request : StoreCall} {ns name : String}

/-- The status of the cluster under a name, or the one of a cluster never seen before. -/
def statusOf (store : MemoryStore) (ns name : String) : InterconnectStatus :=
  ((store.cluster? ns name).map (·.statusOrNew)).getD {}

/-- How often the status of the cluster under a name was written. -/
def statusWrites (store : MemoryStore) (ns name : String) : Nat :=
  store.mutations.count ⟨.status, ⟨.interconnect, ns, name⟩⟩

/-- The warnings that were published, the oldest first. -/
def warnings (store : MemoryStore) : List Notice :=
  store.notices.filter fun notice => notice.severity = .warning

theorem statusOf_of_found {cluster : Interconnect} (found : store.cluster? ns name = some cluster) :
    store.statusOf ns name = cluster.statusOrNew := by
  rw [statusOf, found]
  rfl

theorem statusOf_congr {other : MemoryStore}
    (h : store.cluster? ns name = other.cluster? ns name) :
    store.statusOf ns name = other.statusOf ns name := by
  rw [statusOf, statusOf, h]

theorem notices_call (store : MemoryStore) (request : StoreCall) :
    (store.call request).2.notices = store.notices ++ request.notices := by
  have hleaves := store.call_leaves request
  generalize (store.call request).2 = after at hleaves ⊢
  cases hleaves with
  | wrote effect => cases effect <;> exact (List.append_nil _).symm
  | struck write =>
      rw [StoreCall.notices_of_isWrite write]
      exact (List.append_nil _).symm
  | spared => rfl

theorem warnings_call (store : MemoryStore) (h : request.RaisesNoAlarm) :
    (store.call request).2.warnings = store.warnings := by
  rw [warnings, notices_call, List.filter_append, ← warnings]
  cases request with
  | publish about notice =>
      have hseverity : notice.severity ≠ .warning := h
      simp [StoreCall.notices, hseverity]
  | _ => exact List.append_nil _

@[simp] theorem statusWrites_change (store : MemoryStore) (verb : Verb) (key : ObjectKey)
    (object : key.kind.Object) (ns name : String) :
    (store.change verb key object).statusWrites ns name = store.statusWrites ns name +
      if verb = .status ∧ key = ⟨.interconnect, ns, name⟩ then 1 else 0 := by
  have hmutations : (store.change verb key object).mutations =
      store.mutations ++ [⟨verb, key⟩] := rfl
  rw [statusWrites, hmutations, List.count_append, List.count_singleton, ← statusWrites]
  simp

theorem statusOf_change (store : MemoryStore) (verb : Verb) (space other : String)
    (cluster : Interconnect) (ns name : String) :
    (store.change verb ⟨.interconnect, space, other⟩ cluster).statusOf ns name =
      if ns = space ∧ name = other then cluster.statusOrNew else store.statusOf ns name := by
  rw [statusOf, cluster?_change]
  split
  · rfl
  · rfl

/-- The status of a cluster and how often it was written are as they were. -/
def SameStatus (store before : MemoryStore) (ns name : String) : Prop :=
  store.statusOf ns name = before.statusOf ns name ∧
    store.statusWrites ns name = before.statusWrites ns name

theorem SameObjects.sameStatus (h : store.SameObjects before) (ns name : String) :
    store.SameStatus before ns name :=
  ⟨statusOf_congr (h.object? _), by rw [statusWrites, h.mutations, statusWrites]⟩

/-- A call that raises no alarm leaves the status as it was, or writes one with another phase. -/
theorem sameStatus_call (h : request.RaisesNoAlarm) (store : MemoryStore) (ns name : String) :
    (store.call request).2.SameStatus store ns name ∨
      ((store.call request).2.statusOf ns name).phase ≠ .failed := by
  have hderived {verb : Verb} {key : ObjectKey} {object : key.kind.Object}
      (derived : key.kind ≠ .interconnect) :
      (store.change verb key object).SameStatus store ns name := by
    refine ⟨statusOf_congr (cluster?_change_of_kind_ne derived ..), ?_⟩
    rw [statusWrites_change, if_neg, Nat.add_zero]
    rintro ⟨-, rfl⟩
    exact derived rfl
  rcases store.call_cases request with hwrote | hsame
  · generalize (store.call request).2 = after at hwrote
    cases hwrote with
    | created => exact .inl (hderived h)
    | replaced => exact .inl (hderived h)
    | @clusterReplaced cluster stored found current =>
        refine .inl ⟨?_, by simp⟩
        rw [statusOf_change]
        split
        next hkey =>
          obtain ⟨rfl, rfl⟩ := hkey
          exact (statusOf_of_found found).symm
        next => rfl
    | @statusReplaced cluster stored found current =>
        by_cases hkey : ns = cluster.space ∧ name = cluster.name
        · rw [statusOf_change, if_pos hkey]
          exact .inr h
        · refine .inl ⟨by rw [statusOf_change, if_neg hkey], ?_⟩
          rw [statusWrites_change, if_neg, Nat.add_zero]
          rintro ⟨-, hsame⟩
          cases hsame
          exact hkey ⟨rfl, rfl⟩
  · exact .inl (hsame.sameStatus ns name)

/-- Since an earlier store no alarm was raised: no warning was published, and the status of a
cluster is the one of then, not written since, or it has another phase than `Failed`. -/
structure Unalarmed (store before : MemoryStore) (ns name : String) : Prop where
  warnings : store.warnings = before.warnings
  status : store.SameStatus before ns name ∨ (store.statusOf ns name).phase ≠ .failed

theorem Unalarmed.refl (store : MemoryStore) (ns name : String) : store.Unalarmed store ns name :=
  ⟨rfl, .inl ⟨rfl, rfl⟩⟩

theorem Unalarmed.call (h : store.Unalarmed before ns name) (hcall : request.RaisesNoAlarm) :
    (store.call request).2.Unalarmed before ns name := by
  refine ⟨(warnings_call store hcall).trans h.warnings, ?_⟩
  rcases sameStatus_call hcall store ns name with ⟨hstatus, hwrites⟩ | hphase
  · refine h.status.imp ?_ fun hphase => ?_
    · rintro ⟨hstatus', hwrites'⟩
      exact ⟨hstatus.trans hstatus', hwrites.trans hwrites'⟩
    · rw [hstatus]
      exact hphase
  · exact .inr hphase

end MemoryStore

namespace Simulation

open MemoryStore

variable {simulation : Simulation} {before : MemoryStore} {ns name : String}

end Simulation

end RouterOperator
