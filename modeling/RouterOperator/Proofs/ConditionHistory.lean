import RouterOperator.Proofs.StatusWays

/-!
# The history of conditions

A status keeps the newest conditions: what it came with, in whatever number, followed by what was
added since, cut off in front. A condition is added as it stands or as one that is reached at some
time, and nothing else of the status notices.
-/

namespace RouterOperator

/-- A condition that is added to a history: as it stands, or reached at a time. -/
inductive Addition where
  | pushed (condition : Condition)
  | reached (now : Timestamp) (type : ConditionType) (reason : String)

namespace Addition

/-- The condition that is added. -/
def condition : Addition → Condition
  | pushed condition => condition
  | reached now type reason => { type, transitionTime := some now, reason }

end Addition

namespace InterconnectStatus

/-- Adds to the history of a status. -/
def add (status : InterconnectStatus) : Addition → InterconnectStatus
  | .pushed condition => status.push condition
  | .reached now type reason => status.reach now type reason

theorem add_eq_push (status : InterconnectStatus) (addition : Addition) :
    status.add addition = status.push addition.condition := by
  cases addition <;> rfl

/-- Any additions but none, one by one, are their conditions added at once. -/
theorem foldl_add_eq_extended (status : InterconnectStatus) {additions : List Addition}
    (nonempty : additions ≠ []) :
    additions.foldl add status = status.extended (additions.map Addition.condition) := by
  have hpush : additions.foldl add status =
      (additions.map Addition.condition).foldl push status := by
    rw [List.foldl_map]
    exact congrArg (fun step => additions.foldl step status)
      (funext fun status => funext fun addition => add_eq_push status addition)
  rw [hpush]
  cases additions with
  | nil => exact absurd rfl nonempty
  | cons first rest => exact foldl_push_eq_extended status first.condition _

/-- What is kept of a list is its end, and all of it up to the bound. -/
theorem rtake_suffix {α : Type} (items : List α) (n : Nat) :
    items.rtake n <:+ items ∧ (items.rtake n).length = min n items.length := by
  refine ⟨List.drop_suffix _ items, ?_⟩
  rw [List.rtake, List.length_drop]
  omega

theorem getLast?_rtake {α : Type} (items : List α) {n : Nat} (h : n ≠ 0) :
    (items.rtake n).getLast? = items.getLast? := by
  rw [List.rtake, List.getLast?_drop]
  split
  · rw [List.getLast?_eq_none_iff.mpr (List.eq_nil_of_length_eq_zero (by omega))]
  · rfl

/-- After additions, of which there is one at least, the history is the end of what the status came
with followed by what was added, in order: the last six of it, or all of it if it is shorter. The
condition added last is the last one, and nothing else of the status changes. -/
theorem history_keeps_last (status : InterconnectStatus) {additions : List Addition}
    (nonempty : additions ≠ []) :
    let all := status.conditions ++ additions.map Addition.condition
    let later := additions.foldl add status
    (later.conditions <:+ all ∧ later.conditions.length = min 6 all.length) ∧
      later.lastCondition = some (additions.getLast nonempty).condition ∧
      later = { status with conditions := later.conditions } := by
  intro all later
  have hlater : later = status.extended (additions.map Addition.condition) :=
    status.foldl_add_eq_extended nonempty
  have hconditions : later.conditions = all.rtake maxConditions := by rw [hlater]; rfl
  refine ⟨?_, ?_, ?_⟩
  · rw [hconditions]
    exact rtake_suffix all maxConditions
  · calc later.lastCondition
      _ = all.getLast? := by
        rw [lastCondition, hconditions, getLast?_rtake all (by decide)]
      _ = some (additions.getLast nonempty).condition := by
        rw [List.getLast?_append_of_ne_nil _ (by simpa using nonempty), List.getLast?_map,
          List.getLast?_eq_some_getLast nonempty, Option.map_some]
  · rw [hlater]
    rfl

/-- A status with more conditions than it keeps, as it may be read. -/
def overfull : InterconnectStatus where
  phase := .running
  conditions := (List.range 8).map fun i => { type := .scalingUp, reason := toString i }

theorem overfull_drops_the_oldest :
    overfull.conditions.length = 8 ∧ ∃ additions : List Addition, additions ≠ [] ∧
      let later := additions.foldl add overfull
      later.conditions.map (·.reason) = ["4", "5", "6", "7", "a", "b"] ∧
      later.lastCondition.map (·.reason) = some "b" ∧ later.phase = .running := by
  let additions : List Addition :=
    [.pushed { type := .upgrading, reason := "a" }, .reached default .deployed "b"]
  have nonempty : additions ≠ [] := List.cons_ne_nil _ _
  obtain ⟨⟨hsuffix, hlength⟩, hlast, hrest⟩ := overfull.history_keeps_last nonempty
  refine ⟨rfl, additions, nonempty, ?_, ?_, ?_⟩
  · rw [List.suffix_iff_eq_drop.mp hsuffix, hlength]
    decide
  · rw [hlast]
    rfl
  · rw [hrest]
    rfl

end InterconnectStatus

end RouterOperator
