import RouterOperator.Proofs.Decision
import RouterOperator.Proofs.Store.Fresh

/-!
# Plans over a store in memory

Over a store in memory every read is answered and changes nothing, so a pass is one of its plans,
decided on what the store holds. A planted failure strikes the first call of the plan. Over a fresh
store without one, every call of the plan takes effect.
-/

namespace RouterOperator

namespace MemoryStore

open Program

variable {store : MemoryStore}

theorem call_of_isRead {request : StoreCall} (h : request.isRead = true) (store : MemoryStore) :
    ∃ reply, store.call request = (.ok reply, store) := by
  cases request with
  | get kind ns name => exact ⟨_, rfl⟩
  | listPods ns selector => exact ⟨_, rfl⟩
  | _ => cases h

/-- A pass over a store in memory is one of its plans, carried out over that store. -/
theorem exists_plan (store : MemoryStore) (pass : Pass) :
    ∃ known moves outcome, pass.Plan known moves outcome ∧
      (∀ exchange ∈ known, store.Answers exchange) ∧
      pass.program.run runner store = (script outcome moves).run runner store := by
  have hreads (state : MemoryStore) (request : StoreCall) (h : request.isRead = true)
      (hstate : state = store) : (runner.call request state).2 = store := by
    obtain ⟨reply, hcall⟩ := call_of_isRead h state
    exact (congrArg Prod.snd hcall).trans hstate
  cases (Pass.decides_program pass).course hreads rfl with
  | @stopped last error keeps stops fails after reads =>
      rcases stops with hexpired | ⟨request, error, hread, hanswer⟩
      · cases hexpired
      · obtain ⟨reply, hcall⟩ := call_of_isRead hread last
        exact nomatch hanswer.symm.trans (congrArg Prod.fst hcall)
  | @decided answers after moves outcome keeps kept planned run trace =>
      subst keeps
      refine ⟨_, moves, outcome, planned, ?_, run⟩
      simp only [List.nil_append, List.forall_mem_map]
      intro read hread
      have hanswer := read.answer
      rw [kept read hread] at hanswer
      exact hanswer

/-- A script goes on behind a call that is answered. -/
theorem run_script_cons {α : Type} {result : α} {move : Move} {rest : List Move}
    {reply : move.request.Reply} {after : MemoryStore}
    (h : store.call move.request = (.ok reply, after)) :
    (script result (move :: rest)).run runner store = (script result rest).run runner after := by
  obtain ⟨before, request⟩ := move
  cases before with
  | none => exact run_call_of_ok h _
  | some before => exact run_call_of_ok h _

theorem run_script_of_error {α : Type} {result : α} {move : Move} {rest : List Move}
    {error : Error} {after : MemoryStore} (h : store.call move.request = (.error error, after)) :
    (script result (move :: rest)).run runner store = (.error error, after) := by
  obtain ⟨before, request⟩ := move
  cases before with
  | none => exact run_call_of_error h _
  | some before => exact run_call_of_error h _

/-- A planted failure strikes a write, and nothing else happens. -/
theorem call_of_failure {failure : PlantedFailure} (h : store.failure = some failure)
    {request : StoreCall} (hwrite : request.isWrite = true) :
    store.call request = (.error failure.error, { store with failure := none }) := by
  cases request with
  | get | listPods | publish => cases hwrite
  | _ =>
      rw [call]
      exact write_of_failure h _

/-- All calls of a list are answered. -/
def CarriesOut (store : MemoryStore) (moves : List Move) : Prop :=
  ∃ after, ∀ outcome : Outcome, (script outcome moves).run runner store = (.ok outcome, after)

theorem carriesOut_nil (store : MemoryStore) : store.CarriesOut [] := ⟨store, fun _ => rfl⟩

theorem CarriesOut.cons {move : Move} {rest : List Move} {reply : move.request.Reply}
    {after : MemoryStore} (hcall : store.call move.request = (.ok reply, after))
    (h : after.CarriesOut rest) : store.CarriesOut (move :: rest) := by
  obtain ⟨last, hrest⟩ := h
  exact ⟨last, fun outcome => (run_script_cons hcall).trans (hrest outcome)⟩

namespace Fresh

variable {ns : String} {cluster : Interconnect} {before : Option String}

/-- Over a fresh store the status is written, and a notice may follow. -/
theorem carriesOut_status (h : store.Fresh ns cluster) (status : InterconnectStatus) :
    store.CarriesOut [⟨before, .replaceStatus { cluster with status := some status }⟩] ∧
      ∀ about notice, store.CarriesOut [
        ⟨before, .replaceStatus { cluster with status := some status }⟩,
        ⟨none, .publish about notice⟩] := by
  obtain ⟨after, version, hcall, -⟩ := h.writeStatus status
  refine ⟨.cons hcall (carriesOut_nil after), fun about notice => .cons hcall ?_⟩
  have hnotice : after.call (.publish about notice) = (.ok (), _) := rfl
  exact .cons hnotice (carriesOut_nil _)

theorem carriesOut_spec (h : store.Fresh ns cluster) (spec : InterconnectSpec) :
    store.CarriesOut [⟨before, .replaceCluster { cluster with spec }⟩] := by
  obtain ⟨after, version, hcall, -⟩ := h.writeSpec spec
  exact .cons hcall (carriesOut_nil after)

/-- Over a fresh store an object is created that was not found, and the rest follows. -/
theorem carriesOut_create (h : store.Fresh ns cluster) {kind : Kind} {desired : kind.Object}
    (derived : kind ≠ .interconnect)
    (absent : store.Answers ⟨.get kind ns (kind.nameOf desired), none⟩) {rest : List Move}
    (hrest : ∀ after : MemoryStore, after.Fresh ns cluster → after.CarriesOut rest) :
    store.CarriesOut (⟨before, .create kind ns desired⟩ :: rest) := by
  have hnone : store.object? (.of kind ns desired) = none := Except.ok.inj absent
  exact .cons (call_create_of_absent h.unharmed hnone)
    (hrest _ (h.change .create derived rfl))

/-- Over a fresh store an object that was found is replaced under its name and version, and the rest
follows. -/
theorem carriesOut_replace (h : store.Fresh ns cluster) {kind : Kind} {name : String}
    {live object : kind.Object} (derived : kind ≠ .interconnect)
    (found : store.Answers ⟨.get kind ns name, some live⟩)
    (hname : kind.nameOf object = kind.nameOf live)
    (hversion : kind.version? object = kind.version? live) {rest : List Move}
    (hrest : ∀ after : MemoryStore, after.Fresh ns cluster → after.CarriesOut rest) :
    store.CarriesOut (⟨before, .replace kind ns object⟩ :: rest) := by
  have hlive : store.object? ⟨kind, ns, name⟩ = some live := Except.ok.inj found
  exact .cons (h.call_replace hlive hname hversion) (hrest _ (h.change .replace derived rfl))

end Fresh

end MemoryStore

theorem Pass.Workload.kind_ne {pass : Pass} {kind : Kind} {desired : kind.Object}
    (h : pass.Workload kind desired) : kind ≠ .interconnect := by
  cases h <;> decide

namespace Pass.Plan

open Program MemoryStore

variable {pass : Pass} {known : List Exchange} {moves : List Move} {outcome : Outcome}
  {store : MemoryStore}

/-- The first call of a plan is a write. -/
theorem first_isWrite (h : pass.Plan known moves outcome) {move : Move} {rest : List Move}
    (hmoves : moves = move :: rest) : move.request.isWrite = true := by
  cases h <;> cases hmoves <;> rfl

/-- Over a fresh store every plan is carried out to its end. -/
theorem carriesOut (h : pass.Plan known moves outcome)
    (hknown : ∀ exchange ∈ known, store.Answers exchange)
    (fresh : store.Fresh pass.ns pass.cluster) : store.CarriesOut moves := by
  cases h with
  | idle | blocked => exact carriesOut_nil store
  | block => exact (fresh.carriesOut_status _).2 _ _
  | restate => exact (fresh.carriesOut_status _).1
  | persist spec => exact fresh.carriesOut_spec spec
  | create derived =>
      exact fresh.carriesOut_create derived (answers_concat hknown).2 fun after _ =>
        carriesOut_nil after
  | update derived =>
      exact fresh.carriesOut_replace derived (answers_concat hknown).2 (Kind.nameOf_updated ..)
        (Kind.version?_updated ..) fun after _ => carriesOut_nil after
  | issue spec =>
      exact fresh.carriesOut_create (by decide) (answers_concat hknown).2 fun after hafter =>
        hafter.carriesOut_spec spec
  | deploy workload =>
      exact fresh.carriesOut_create workload.kind_ne (answers_concat hknown).2 fun after hafter =>
        (hafter.carriesOut_status _).2 _ _
  | refresh workload =>
      exact fresh.carriesOut_replace workload.kind_ne (answers_concat hknown).2
        (Kind.nameOf_updated ..) (Kind.version?_updated ..) fun after _ => carriesOut_nil after
  | upgrade workload =>
      exact fresh.carriesOut_replace workload.kind_ne (answers_concat hknown).2
        (Kind.nameOf_updated ..) (Kind.version?_updated ..) fun after hafter =>
          (hafter.carriesOut_status _).1
  | resize =>
      exact fresh.carriesOut_replace (by decide) (answers_concat hknown).2 (pass.nameOf_resized _)
        (pass.version?_resized _) fun after hafter => (hafter.carriesOut_status _).2 _ _

end Pass.Plan

end RouterOperator
