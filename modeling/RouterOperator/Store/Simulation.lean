import RouterOperator.Reconcile.Pass
import RouterOperator.Store.Memory

/-!
# Simulated passes

Passes over a store in memory with a virtual clock: every call to the store takes the same time,
whether it fails or not, and a notice takes none. A failure can be armed to strike a later write,
and every call is recorded. A run of passes ends with the first one that asks for no other.
-/

namespace RouterOperator

/-- A failure that strikes a write after `after` more writes were let through. -/
structure ArmedFailure where
  after : Nat
  failure : PlantedFailure
deriving DecidableEq

/-- A store in memory with a clock in milliseconds. -/
structure Simulation where
  store : MemoryStore := {}
  clock : Nat := 0
  /-- The time by which the running pass has to end. -/
  deadline : Nat := 0
  /-- The time that a call takes. -/
  callCost : Nat := 0
  armed : Option ArmedFailure := none
  calls : List StoreCall := []

/-- The time that a pass and its calls may take, in milliseconds. -/
structure PassLimits where
  deadline : Nat := 30000
  callCost : Nat := 0
deriving DecidableEq

namespace Simulation

variable {α : Type}

/-- Arms a failure, in place of one that is armed already. -/
def arm (simulation : Simulation) (after : Nat) (failure : PlantedFailure) : Simulation :=
  { simulation with armed := some ⟨after, failure⟩ }

/-- Counts a write: an armed failure comes closer, or is planted when its turn has come. -/
def countWrite (simulation : Simulation) : Simulation :=
  match simulation.armed with
  | none => simulation
  | some ⟨0, failure⟩ =>
    { simulation with store := simulation.store.plant failure, armed := none }
  | some ⟨after + 1, failure⟩ => { simulation with armed := some ⟨after, failure⟩ }

/-- The time that a call takes. -/
def costOf (simulation : Simulation) (request : StoreCall) : Nat :=
  if request.isNotice then 0 else simulation.callCost

/-- Carries out a call. -/
def call (simulation : Simulation) (request : StoreCall) :
    Except Error request.Reply × Simulation :=
  let counted := if request.isWrite then simulation.countWrite else simulation
  let (reply, store) := counted.store.call request
  (reply, { counted with
    store
    clock := counted.clock + counted.costOf request
    calls := counted.calls ++ [request] })

/-- Runs programs: the deadline is exceeded from the moment it is reached. -/
def runner : Runner Simulation where
  expired simulation := simulation.deadline ≤ simulation.clock
  call request simulation := simulation.call request

/-- One pass over a cluster, within limits counted from its start. -/
def pass (simulation : Simulation) (settings : Settings) (now : Timestamp) (limits : PassLimits)
    (cluster : Interconnect) : Except Error Outcome × Simulation :=
  (reconcile settings now cluster).run runner
    { simulation with
      deadline := simulation.clock + limits.deadline
      callCost := limits.callCost }

/-- Whether another pass follows one with this result. -/
def goesOn : Except Error Outcome → Bool
  | .ok outcome => outcome.requeue
  | .error _ => false

/-- At most `max` passes, each over the cluster that `pick` finds, until one asks for no other or
there is no cluster. The results are in the order of the passes. -/
def converge (simulation : Simulation) (settings : Settings) (now : Timestamp)
    (limits : PassLimits) (pick : Simulation → Option Interconnect) (max : Nat) :
    List (Except Error Outcome) × Simulation :=
  match max with
  | 0 => ([], simulation)
  | max + 1 =>
    match pick simulation with
    | none => ([], simulation)
    | some cluster =>
      let (result, simulation) := simulation.pass settings now limits cluster
      if goesOn result then
        let (results, simulation) := simulation.converge settings now limits pick max
        (result :: results, simulation)
      else ([result], simulation)

/-- The simulation with the records of earlier calls, changes and notices cleared. -/
def cleared (simulation : Simulation) : Simulation :=
  { simulation with
    calls := []
    store := { simulation.store with mutations := [], notices := [] } }

end Simulation

end RouterOperator
