import RouterOperator.Proofs.Drift
import RouterOperator.Proofs.Store.Calls
import RouterOperator.Store.Simulation

/-!
# Passes over a store in memory

A pass over the store alone, with no clock and no failure that is armed for later. A simulated pass
whose deadline is not exceeded is such a pass. The stages of the checklist are described here by
what they bring about: over any store a stage passes exactly where its goal is met, and then it
changes nothing.
-/

namespace RouterOperator

namespace MemoryStore

/-- Runs programs over the store alone: there is no deadline. -/
def runner : Runner MemoryStore where
  expired _ := false
  call request store := store.call request

/-- One pass over a cluster. -/
def pass (store : MemoryStore) (settings : Settings) (now : Timestamp) (cluster : Interconnect) :
    Except Error Outcome × MemoryStore :=
  (reconcile settings now cluster).run runner store

/-- The store holds an object that has not drifted from the desired state. -/
def Holds (store : MemoryStore) (ns : String) (kind : Kind) (desired : kind.Object) : Prop :=
  ∃ live, store.object? ⟨kind, ns, kind.nameOf desired⟩ = some live ∧
    kind.drifted live desired = false

/-- A stage passes over a store exactly where its goal is met, and then it changes nothing. -/
structure Passes (store : MemoryStore) (stage : Stage) (goal : Prop) : Prop where
  of_goal : goal → stage.run runner store = (.ok none, store)
  goal : (stage.run runner store).1 = .ok none → goal

end MemoryStore

namespace Simulation

variable {α : Type}

/-- While no failure is armed, a call does to the store what it does without a clock. -/
theorem call_of_unarmed {simulation : Simulation} (harmed : simulation.armed = none)
    (request : StoreCall) :
    runner.call request simulation = ((MemoryStore.runner.call request simulation.store).1,
      { simulation with
        store := (MemoryStore.runner.call request simulation.store).2
        clock := simulation.clock + simulation.costOf request
        calls := simulation.calls ++ [request] }) := by
  -- nothing is armed, so counting writes changes nothing and arms nothing
  have hcounted : (if request.isWrite then simulation.countWrite else simulation) =
      simulation := by
    split
    · rw [countWrite, harmed]
    · rfl
  change simulation.call request = _
  rw [call, hcounted]
  rfl

/-- While no failure is armed, a program does to the store what it does without a clock, unless the
deadline ends it. -/
theorem run_eq (program : Program α) {simulation : Simulation} (harmed : simulation.armed = none) :
    (∃ before, (program.run runner simulation).1 = .error (.deadlineExceeded before)) ∨
      ((program.run runner simulation).1 =
          (program.run MemoryStore.runner simulation.store).1 ∧
        (program.run runner simulation).2.store =
          (program.run MemoryStore.runner simulation.store).2) := by
  induction program generalizing simulation with
  | done result => exact Or.inr ⟨rfl, rfl⟩
  | fail error => exact Or.inr ⟨rfl, rfl⟩
  | check before next ih =>
      rw [Program.run]
      split
      · exact Or.inl ⟨before, rfl⟩
      · exact ih harmed
  | call request next ih =>
      rw [Program.run, Program.run, call_of_unarmed harmed]
      cases MemoryStore.runner.call request simulation.store with
      | mk answer after =>
          cases answer with
          | ok reply => exact ih reply harmed
          | error error => exact Or.inr ⟨rfl, rfl⟩

/-- Where calls take no time the deadline is not reached. -/
theorem run_eq_of_free (program : Program α) {simulation : Simulation}
    (harmed : simulation.armed = none) (hcost : simulation.callCost = 0)
    (hopen : simulation.clock < simulation.deadline) :
    (program.run runner simulation).1 =
        (program.run MemoryStore.runner simulation.store).1 ∧
      (program.run runner simulation).2.store =
        (program.run MemoryStore.runner simulation.store).2 := by
  induction program generalizing simulation with
  | done result => exact ⟨rfl, rfl⟩
  | fail error => exact ⟨rfl, rfl⟩
  | check before next ih =>
      have hgoes : runner.expired simulation = false := decide_eq_false (Nat.not_le.mpr hopen)
      rw [Program.run, hgoes]
      exact ih harmed hcost hopen
  | call request next ih =>
      have hclock : simulation.clock + simulation.costOf request = simulation.clock := by
        simp [costOf, hcost]
      rw [Program.run, Program.run, call_of_unarmed harmed, hclock]
      cases MemoryStore.runner.call request simulation.store with
      | mk answer after =>
          cases answer with
          | ok reply => exact ih reply harmed hcost hopen
          | error error => exact ⟨rfl, rfl⟩

/-- A simulated pass is a pass over the store, unless the deadline ends it. -/
theorem pass_eq {simulation : Simulation} (harmed : simulation.armed = none) (settings : Settings)
    (now : Timestamp) (limits : PassLimits) (cluster : Interconnect) :
    (∃ before, (simulation.pass settings now limits cluster).1 =
        .error (.deadlineExceeded before)) ∨
      ((simulation.pass settings now limits cluster).1 =
          (simulation.store.pass settings now cluster).1 ∧
        (simulation.pass settings now limits cluster).2.store =
          (simulation.store.pass settings now cluster).2) :=
  run_eq _ harmed

end Simulation

namespace MemoryStore

open Program

variable {store : MemoryStore} {stage : Stage} {goal : Prop}

theorem passes_firstSome_nil : store.Passes (firstSome []) True :=
  ⟨fun _ => rfl, fun _ => trivial⟩

theorem Passes.firstSome_cons {rest : List Stage} {goals : Prop} (h : store.Passes stage goal)
    (hrest : store.Passes (firstSome rest) goals) :
    store.Passes (firstSome (stage :: rest)) (goal ∧ goals) := by
  refine ⟨fun hgoals => ?_, fun hrun => ?_⟩
  · rw [run_firstSome_of_none (h.of_goal hgoals.1)]
    exact hrest.of_goal hgoals.2
  · cases hstage : stage.run runner store with
    | mk result after =>
        cases result with
        | error error =>
            rw [firstSome, run_bind, hstage] at hrun
            cases hrun
        | ok result =>
            cases result with
            | some outcome =>
                rw [run_firstSome_of_some hstage] at hrun
                cases hrun
            | none =>
                -- the goal is met, so the stage has left the store as it is
                have hgoal := h.goal (by rw [hstage])
                rw [run_firstSome_of_none (h.of_goal hgoal)] at hrun
                exact ⟨hgoal, hrest.goal hrun⟩

/-- A checklist passes exactly where all its goals are met. -/
theorem passes_firstSome {ι : Type} {items : List ι} {stageOf : ι → Stage} {goalOf : ι → Prop}
    (h : ∀ item ∈ items, store.Passes (stageOf item) (goalOf item)) :
    store.Passes (firstSome (items.map stageOf)) (∀ item ∈ items, goalOf item) := by
  induction items with
  | nil => exact ⟨fun _ => rfl, fun _ item hitem => nomatch hitem⟩
  | cons item rest ih =>
      rw [List.forall_mem_cons]
      exact (h item List.mem_cons_self).firstSome_cons
        (ih fun other hother => h other (List.mem_cons_of_mem _ hother))

/-- A stage that ends every pass once it does not find its goal met. -/
theorem Passes.of_not_goal (hgoal : goal → stage.run runner store = (.ok none, store))
    (hnot : ¬ goal → ∃ rest : Stage,
      stage.run runner store = rest.run runner store ∧
        rest.Meets (fun _ => True) fun result => result.isSome) :
    store.Passes stage goal := by
  refine ⟨hgoal, fun hrun => Classical.byContradiction fun hunmet => ?_⟩
  obtain ⟨rest, hsame, hmeets⟩ := hnot hunmet
  rw [hsame] at hrun
  exact absurd (hmeets.run_promised hrun) (by simp)

end MemoryStore

end RouterOperator
