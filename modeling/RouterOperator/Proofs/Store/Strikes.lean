import RouterOperator.Proofs.LostUpdate
import RouterOperator.Proofs.Store.Plans

/-!
# Scripts under the clock

A script over a simulation may be cut short by the deadline, by a failure that strikes, or by a
write of a cluster that others have written since it was read. Up to there its calls do to the store
what they do without all that. A write that is not preceded by a check is lost to the latter two
alone.
-/

namespace RouterOperator

namespace Simulation

open Program

variable {simulation : Simulation}

/-- No failure strikes the next write. -/
def Spared (simulation : Simulation) : Prop := simulation.countWrite.store.failure = none

theorem spared_iff : simulation.Spared ↔
    simulation.store.failure = none ∧ ∀ failure, simulation.armed ≠ some ⟨0, failure⟩ := by
  unfold Spared countWrite
  split
  next harmed => simp [harmed]
  next failure harmed => simp [harmed, MemoryStore.plant]
  next after failure harmed => simp [harmed]

theorem Spared.store_countWrite (h : simulation.Spared) :
    simulation.countWrite.store = simulation.store := by
  have harmed := (spared_iff.mp h).2
  unfold countWrite
  split
  next => rfl
  next failure hfailure => exact absurd hfailure (harmed failure)
  next => rfl

theorem spared_of_written {next : Simulation} (h : simulation.Spared)
    (hstore : next.store.failure = none) (harmed : next.armed = simulation.countWrite.armed) :
    next.Spared ↔ ∀ failure, simulation.armed ≠ some ⟨1, failure⟩ := by
  have hzero := (spared_iff.mp h).2
  rw [spared_iff, harmed, countWrite]
  split
  next hnone => simp [hstore, hnone]
  next failure hfailure => exact absurd hfailure (hzero failure)
  next after failure hsome => simp [hstore, hsome]

/-- A write that would be answered is struck or answered. -/
theorem call_write_cases {request : StoreCall} (hwrite : request.isWrite = true)
    {reply : request.Reply} {written : MemoryStore}
    (hcall : simulation.store.failure = none →
      simulation.store.call request = (.ok reply, written)) :
    (¬ simulation.Spared ∧ (∃ error, (simulation.call request).1 = .error error) ∧
        (simulation.call request).2.store.SameObjects simulation.store) ∨
      (simulation.Spared ∧ (simulation.call request).1 = .ok reply ∧
        (simulation.call request).2.store = written ∧
        (simulation.call request).2.armed = simulation.countWrite.armed) := by
  have hfacing : simulation.facing request = simulation.countWrite.store := by
    rw [facing, if_pos hwrite]
  have hanswer : (simulation.call request).1 = ((simulation.facing request).call request).1 := rfl
  have harmed : (simulation.call request).2.armed = simulation.countWrite.armed := by
    change (if request.isWrite then simulation.countWrite else simulation).armed = _
    rw [if_pos hwrite]
  cases hfailure : simulation.countWrite.store.failure with
  | some failure =>
      have hstruck := MemoryStore.call_of_failure hfailure hwrite
      refine .inl ⟨fun hspared => ?_, ⟨failure.error, ?_⟩, ?_⟩
      · exact nomatch hspared.symm.trans hfailure
      · rw [hanswer, hfacing, hstruck]
      · have hsame := simulation.facing_sameObjects request
        rw [hfacing] at hsame
        rw [call_store, hfacing, hstruck]
        exact ⟨hsame.objects, hsame.version, hsame.mutations⟩
  | none =>
      have hspared : simulation.Spared := hfailure
      have hdirect := hcall (spared_iff.mp hspared).1
      rw [hspared.store_countWrite] at hfacing
      refine .inr ⟨hspared, ?_, ?_, harmed⟩
      · rw [hanswer, hfacing, hdirect]
      · rw [call_store, hfacing, hdirect]

section scripts

variable {α : Type} {result : α} {move : Move} {rest : List Move}

/-- A script is cut short by the deadline, which a move without a check ignores, or makes its first
call. -/
theorem run_script_cons_cases (simulation : Simulation) (result : α) (move : Move)
    (rest : List Move) :
    (move.before ≠ none ∧
        ((script result (move :: rest)).run runner simulation).2 = simulation) ∨
      (script result (move :: rest)).run runner simulation =
        (Program.call move.request fun _ => script result rest).run runner simulation := by
  obtain ⟨before, request⟩ := move
  cases before with
  | none => exact .inr rfl
  | some before =>
      cases hexpired : runner.expired simulation with
      | true =>
          exact .inl ⟨Option.some_ne_none _,
            congrArg Prod.snd (run_check_of_expired hexpired _ _).1⟩
      | false => exact .inr (run_check_of_open hexpired _ _).1

/-- A write of an object either changes nothing and ends the script, or takes effect and the script
goes on. -/
theorem run_script_write (hwrite : move.request.isWrite = true) {reply : move.request.Reply}
    {written : MemoryStore} (hcall : simulation.store.failure = none →
      simulation.store.call move.request = (.ok reply, written)) :
    ((script result (move :: rest)).run runner simulation).2.store.SameObjects simulation.store ∨
      ∃ next : Simulation, next = (simulation.call move.request).2 ∧
        (script result (move :: rest)).run runner simulation =
          (script result rest).run runner next ∧
        next.store = written ∧ simulation.Spared ∧ next.armed = simulation.countWrite.armed := by
  rcases simulation.run_script_cons_cases result move rest with ⟨-, hexpired⟩ | hrun
  · rw [hexpired]
    exact .inl (.refl _)
  · rw [hrun]
    rcases call_write_cases hwrite hcall with ⟨-, ⟨error, herror⟩, hsame⟩ |
      ⟨hspared, hanswer, hstore, harmed⟩
    · have hcall : runner.call move.request simulation =
          (.error error, (simulation.call move.request).2) := Prod.ext herror rfl
      rw [run_call_of_error hcall]
      exact .inl hsame
    · have hcall : runner.call move.request simulation =
          (.ok reply, (simulation.call move.request).2) := Prod.ext hanswer rfl
      exact .inr ⟨_, rfl, run_call_of_ok hcall _, hstore, hspared, harmed⟩

/-- Notices change no object. -/
theorem run_script_notices (hnotices : ∀ move ∈ rest, ∃ about notice,
    move = ⟨none, .publish about notice⟩) (simulation : Simulation) (result : α) :
    ((script result rest).run runner simulation).2.store.SameObjects simulation.store := by
  induction rest generalizing simulation with
  | nil => exact .refl _
  | cons move rest ih =>
      obtain ⟨⟨about, notice, rfl⟩, hrest⟩ := List.forall_mem_cons.mp hnotices
      have hsame := ih hrest (simulation.call (.publish about notice)).2
      exact ⟨hsame.objects, hsame.version, hsame.mutations⟩

end scripts

/-- The store holds the cluster that a pass has read. -/
def Holding (simulation : Simulation) (snapshot : Interconnect) : Prop :=
  simulation.store.cluster? snapshot.space snapshot.name = some snapshot

/-- What becomes of a write of a cluster: it is lost and changes nothing, for the deadline at most
if that is checked for, or the cluster is stored in another form. -/
inductive ClusterWrite (simulation : Simulation) (snapshot next : Interconnect)
    (before : Option String) (after : MemoryStore) : Prop where
  | lost (same : ∀ key, after.object? key = simulation.store.object? key)
    (refused : before = none → ¬ (simulation.Holding snapshot ∧ simulation.Spared))
  | stored (holding : simulation.Holding snapshot) (spared : simulation.Spared)
    (serving : after.SameServing simulation.store) {version : Option String}
    (found : after.cluster? snapshot.space snapshot.name = some (next.under version))

section clusterWrites

variable {α : Type} {result : α} {move : Move} {rest : List Move} {seen : List Interconnect}
  {snapshot next : Interconnect} {verb : Verb} {pass : Pass}

/-- A write of the cluster that a pass has read takes effect where that is the stored one and no
failure strikes. -/
theorem Sound.run_clusterWrite (h : simulation.Sound seen) (read : snapshot ∈ seen)
    (hpass : pass.cluster = snapshot) (hcall : pass.MayCall move.request)
    (hcluster : ∃ cluster, move.request = .replaceCluster cluster ∨
      move.request = .replaceStatus cluster)
    {reply : move.request.Reply}
    (heffect : ∀ store : MemoryStore, store.failure = none →
      store.cluster? snapshot.space snapshot.name = some snapshot →
        store.call move.request = (.ok reply,
          store.change verb ⟨.interconnect, snapshot.space, snapshot.name⟩ next))
    (hnotices : ∀ move ∈ rest, ∃ about notice, move = ⟨none, .publish about notice⟩) :
    simulation.ClusterWrite snapshot next move.before
      ((script result (move :: rest)).run runner simulation).2.store := by
  have hwrite : move.request.isWrite = true := by
    obtain ⟨cluster, hrequest | hrequest⟩ := hcluster <;> rw [hrequest] <;> rfl
  rcases simulation.run_script_cons_cases result move rest with ⟨hchecked, hexpired⟩ | hrun
  · rw [hexpired]
    exact .lost (fun _ => rfl) fun hnone => absurd hnone hchecked
  rw [hrun]
  by_cases hholding : simulation.Holding snapshot
  · rcases call_write_cases hwrite fun hnone => heffect _ hnone hholding with
      ⟨hstruck, ⟨error, herror⟩, hsame⟩ | ⟨hspared, hanswer, hstore, -⟩
    · have hcall : runner.call move.request simulation =
          (.error error, (simulation.call move.request).2) := Prod.ext herror rfl
      rw [run_call_of_error hcall]
      exact .lost hsame.object? fun _ hboth => hstruck hboth.2
    · have hcall : runner.call move.request simulation =
          (.ok reply, (simulation.call move.request).2) := Prod.ext hanswer rfl
      rw [run_call_of_ok hcall]
      have hsame := run_script_notices hnotices (simulation.call move.request).2 result
      rw [hstore] at hsame
      have hfound : (simulation.store.change verb
          ⟨.interconnect, snapshot.space, snapshot.name⟩ next).cluster? snapshot.space
            snapshot.name =
          some (next.under (some (toString (simulation.store.version + 1)))) :=
        (MemoryStore.cluster?_change ..).trans (if_pos ⟨rfl, rfl⟩)
      refine .stored hholding hspared (fun key hkey => ?_) ((hsame.object? _).trans hfound)
      rw [hsame.object?]
      exact MemoryStore.sameServing_change _ verb rfl _ key hkey
  · obtain ⟨hsame, hanswer⟩ := h.refusesStale read hpass hcall hcluster hholding
    have hcall : runner.call move.request simulation =
        (.error _, (simulation.call move.request).2) := Prod.ext hanswer rfl
    rw [run_call_of_error hcall]
    exact .lost hsame fun _ hboth => hholding hboth.1

variable {status : InterconnectStatus} {spec : InterconnectSpec} {before : Option String}

theorem Sound.run_statusWrite (h : simulation.Sound seen) (read : snapshot ∈ seen)
    (hpass : pass.cluster = snapshot)
    (hnotices : ∀ move ∈ rest, ∃ about notice, move = ⟨none, .publish about notice⟩) :
    simulation.ClusterWrite snapshot { snapshot with status := some status } before
      ((script result (⟨before, pass.statusWrite status⟩ :: rest)).run runner
        simulation).2.store := by
  subst hpass
  change simulation.ClusterWrite _ _ (Move.mk before (pass.statusWrite status)).before _
  exact h.run_clusterWrite read rfl (.status status) ⟨_, .inr rfl⟩
    (fun store hnone hfound => MemoryStore.call_replaceStatus hnone hfound (.inr rfl)) hnotices

theorem Sound.run_specWrite (h : simulation.Sound seen) (read : snapshot ∈ seen)
    (hpass : pass.cluster = snapshot) :
    simulation.ClusterWrite snapshot { snapshot with spec } before
      ((script result [⟨before, pass.specWrite spec⟩]).run runner simulation).2.store := by
  subst hpass
  change simulation.ClusterWrite _ _ (Move.mk before (pass.specWrite spec)).before _
  exact h.run_clusterWrite read rfl (.persist spec) ⟨_, .inl rfl⟩
    (fun store hnone hfound => MemoryStore.call_replaceCluster hnone hfound (.inr rfl)) (by simp)

end clusterWrites

section courses

/-- A read leaves the store and the armed failure alone, and is answered by the store. -/
theorem call_read (simulation : Simulation) {request : StoreCall}
    (hread : request.isRead = true) :
    (simulation.call request).1 = (simulation.store.call request).1 ∧
      (simulation.call request).2.store = simulation.store ∧
      (simulation.call request).2.armed = simulation.armed := by
  cases request with
  | get | listPods => exact ⟨rfl, rfl, rfl⟩
  | _ => cases hread

/-- What may become of a pass over a simulation: it makes reads alone, or it goes on with the calls
that it has decided on in the light of what the store answered. -/
inductive PassCourse (simulation : Simulation) (pass : Pass) : Prop where
  | stopped (same : (pass.program.run runner simulation).2.store = simulation.store)
    (reads : ∀ entry ∈ pass.program.trace runner simulation, entry.2.isRead = true)
  | decided {known moves outcome after front} (decision : pass.Decision known moves outcome)
    (answers : ∀ exchange ∈ known, simulation.store.Answers exchange)
    (store : after.store = simulation.store) (armed : after.armed = simulation.armed)
    (run : pass.program.run runner simulation = (script outcome moves).run runner after)
    (reads : ∀ entry ∈ front, entry.2.isRead = true)
    (trace : pass.program.trace runner simulation =
      front ++ (script outcome moves).trace runner after)

theorem passCourse (simulation : Simulation) (pass : Pass) : simulation.PassCourse pass := by
  -- reads touch neither the store nor the armed failure, so all of them see the same store
  let kept (state : Simulation) : Prop :=
    state.store = simulation.store ∧ state.armed = simulation.armed
  have hreads (state : Simulation) (request : StoreCall) (hread : request.isRead = true)
      (hstate : kept state) : kept (runner.call request state).2 :=
    ⟨(state.call_read hread).2.1.trans hstate.1, (state.call_read hread).2.2.trans hstate.2⟩
  have hsimulation : kept simulation := ⟨rfl, rfl⟩
  cases pass.decides_decision.course hreads hsimulation with
  | stopped keeps stops fails after reads => exact .stopped after.1 reads
  | @decided answers after moves outcome keeps hkept decision run trace =>
      refine .decided decision ?_ keeps.1 keeps.2 run ?_ trace
      · simp only [List.nil_append, List.forall_mem_map]
        intro entry hentry
        have hanswer := (entry.state.call_read entry.reads).1
        rw [(hkept entry hentry).1] at hanswer
        exact hanswer.symm.trans entry.answer
      · rw [List.forall_mem_map]
        exact fun read _ => read.reads

/-- What a call of a pass is: a read, or one of those that the pass has decided on in the light of
what the store answered. -/
inductive PassCall (simulation : Simulation) (pass : Pass) (entry : Simulation × StoreCall) :
    Prop where
  | read (reads : entry.2.isRead = true)
  | decided {known moves outcome after} (decision : pass.Decision known moves outcome)
    (answers : ∀ exchange ∈ known, simulation.store.Answers exchange)
    (store : after.store = simulation.store)
    (made : entry ∈ (script outcome moves).trace runner after)

theorem passCall {simulation : Simulation} {pass : Pass} {entry : Simulation × StoreCall}
    (h : entry ∈ pass.program.trace runner simulation) : simulation.PassCall pass entry := by
  cases simulation.passCourse pass with
  | stopped same reads => exact .read (reads entry h)
  | decided decision answers store armed run reads trace =>
      rw [trace, List.mem_append] at h
      rcases h with hfront | hscript
      · exact .read (reads entry hfront)
      · exact .decided decision answers store hscript

end courses

end Simulation

end RouterOperator
