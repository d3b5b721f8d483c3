import RouterOperator.Reconcile.Program

/-!
# What a program may do

`Program.Meets` speaks about a program before it is run: whatever the store answers, every call is
an allowed one and every result is as promised. `Program.trace` lists the calls that a run makes.
What a program meets holds of all its traces, and an invariant of the allowed calls holds in every
state that a run passes through.
-/

namespace RouterOperator.Program

variable {α β σ : Type} {allowed : StoreCall → Prop} {promised : α → Prop}

/-- Whatever the answers to its calls, a program makes allowed calls alone and ends, if it ends
with a result, with a promised one. -/
def Meets (allowed : StoreCall → Prop) (promised : α → Prop) : Program α → Prop
  | done result => promised result
  | fail _ => True
  | check _ next => next.Meets allowed promised
  | call request next => allowed request ∧ ∀ reply, (next reply).Meets allowed promised

/-- The calls that a run makes, in order, each with the state that it is made in. -/
def trace (runner : Runner σ) : Program α → σ → List (σ × StoreCall)
  | done _, _ | fail _, _ => []
  | check _ next, state => if runner.expired state then [] else next.trace runner state
  | call request next, state =>
    (state, request) ::
      match runner.call request state with
      | (.ok reply, state) => (next reply).trace runner state
      | (.error _, _) => []

/-- The runner that also notes each call with the state that it is made in. -/
def recording (runner : Runner σ) : Runner (σ × List (σ × StoreCall)) where
  expired state := runner.expired state.1
  call request state :=
    let (answer, after) := runner.call request state.1
    (answer, after, state.2 ++ [(state.1, request)])

/-- The trace is what such a runner notes, and noting it changes nothing else. -/
theorem run_recording (program : Program α) (runner : Runner σ) (state : σ)
    (notes : List (σ × StoreCall)) :
    program.run (recording runner) (state, notes) =
      ((program.run runner state).1, (program.run runner state).2,
        notes ++ program.trace runner state) := by
  induction program generalizing state notes with
  | done result => simp [run, trace]
  | fail error => simp [run, trace]
  | check before next ih =>
      rw [run, run, trace]
      change (if runner.expired state then _ else _) = _
      split
      · simp
      · exact ih state notes
  | call request next ih =>
      have hcall : (recording runner).call request (state, notes) =
          ((runner.call request state).1, (runner.call request state).2,
            notes ++ [(state, request)]) := rfl
      rw [run, run, trace, hcall]
      cases runner.call request state with
      | mk answer after =>
          cases answer with
          | error error => rfl
          | ok reply =>
              have hrest := ih reply after (notes ++ [(state, request)])
              rw [List.append_assoc] at hrest
              exact hrest

/-- The calls of a program with a continuation are those of the program and, once that has a result,
those of the continuation. -/
theorem trace_bind (runner : Runner σ) (program : Program α) (next : α → Program β) (state : σ) :
    (program >>= next).trace runner state = program.trace runner state ++
      match program.run runner state with
      | (.ok result, after) => (next result).trace runner after
      | (.error _, _) => [] := by
  induction program generalizing state with
  | done result => rfl
  | fail error => rfl
  | check before rest ih =>
      rw [bind_check, trace, trace, run]
      split
      · rfl
      · exact ih state
  | call request answer ih =>
      rw [bind_call, trace, trace, run]
      cases runner.call request state with
      | mk reply after =>
          cases reply with
          | error error => rfl
          | ok reply => exact congrArg ((state, request) :: ·) (ih reply after)

theorem Meets.imp {allowed' : StoreCall → Prop} {promised' : α → Prop} {program : Program α}
    (h : program.Meets allowed promised) (hcall : ∀ request, allowed request → allowed' request)
    (hresult : ∀ result, promised result → promised' result) :
    program.Meets allowed' promised' := by
  induction program with
  | done result => exact hresult result h
  | fail error => trivial
  | check before next ih => exact ih h
  | call request next ih => exact ⟨hcall request h.1, fun reply => ih reply (h.2 reply)⟩

/-- The rule of sequencing: what the first program promises may be used for the rest. -/
theorem Meets.bind {middle : α → Prop} {promised : β → Prop} {program : Program α}
    {next : α → Program β} (h : program.Meets allowed middle)
    (hnext : ∀ result, middle result → (next result).Meets allowed promised) :
    (program >>= next).Meets allowed promised := by
  induction program with
  | done result => exact hnext result h
  | fail error => trivial
  | check before rest ih => exact ih h
  | call request answer ih => exact ⟨h.1, fun reply => ih reply (h.2 reply)⟩

/-- Sequencing where nothing is known of the first result. -/
theorem Meets.andThen {promised : β → Prop} {program : Program α} {next : α → Program β}
    (h : program.Meets allowed fun _ => True)
    (hnext : ∀ result, (next result).Meets allowed promised) :
    (program >>= next).Meets allowed promised :=
  h.bind fun result _ => hnext result

/-- Programs run in order until one has a result. -/
theorem Meets.firstSome {promised : Option α → Prop} (hnone : promised none)
    {programs : List (Program (Option α))}
    (h : ∀ program ∈ programs, program.Meets allowed promised) :
    (Program.firstSome programs).Meets allowed promised := by
  induction programs with
  | nil => exact hnone
  | cons program rest ih =>
      refine (h program List.mem_cons_self).bind ?_
      intro result hresult
      cases result with
      | some value => exact hresult
      | none => exact ih fun program hmem => h program (List.mem_cons_of_mem _ hmem)

/-- Behind a program that always has a result nothing is run. -/
theorem Meets.firstSome_until {promised : Option α → Prop}
    {front rest : List (Program (Option α))} {last : Program (Option α)}
    (hfront : ∀ program ∈ front, program.Meets allowed promised)
    (hlast : last.Meets allowed fun result => result.isSome ∧ promised result) :
    (Program.firstSome (front ++ last :: rest)).Meets allowed
      fun result => result.isSome ∧ promised result := by
  induction front with
  | nil =>
      refine hlast.bind ?_
      intro result hresult
      cases result with
      | some value => exact hresult
      | none => exact absurd hresult.1 (by simp)
  | cons program front ih =>
      refine (hfront program List.mem_cons_self).bind ?_
      intro result hresult
      cases result with
      | some value => exact ⟨rfl, hresult⟩
      | none => exact ih fun program hmem => hfront program (List.mem_cons_of_mem _ hmem)

/-- What allowed calls preserve holds whenever a run makes a call, and that call is allowed. -/
theorem Meets.trace_invariant {program : Program α} (h : program.Meets allowed promised)
    {runner : Runner σ} (invariant : σ → Prop)
    (hcall : ∀ state request, invariant state → allowed request →
      invariant (runner.call request state).2)
    {state : σ} (hstate : invariant state) :
    ∀ entry ∈ program.trace runner state, invariant entry.1 ∧ allowed entry.2 := by
  induction program generalizing state with
  | done result => simp [Program.trace]
  | fail error => simp [Program.trace]
  | check before next ih =>
      intro entry hentry
      rw [Program.trace] at hentry
      split at hentry
      · simp at hentry
      · exact ih h hstate entry hentry
  | call request next ih =>
      intro entry hentry
      have hafter := hcall state request hstate h.1
      rw [Program.trace] at hentry
      rcases List.mem_cons.mp hentry with rfl | hrest
      · exact ⟨hstate, h.1⟩
      · split at hrest
        next reply after hanswer =>
          rw [hanswer] at hafter
          exact ih reply (h.2 reply) hafter entry hrest
        next => simp at hrest

theorem Meets.trace {program : Program α} (h : program.Meets allowed promised)
    (runner : Runner σ) (state : σ) :
    ∀ entry ∈ program.trace runner state, allowed entry.2 := by
  intro entry hentry
  exact (h.trace_invariant (fun _ => True) (fun _ _ _ _ => trivial) trivial entry hentry).2

/-- A run that ends with a result ends with a promised one. -/
theorem Meets.run_promised {program : Program α} (h : program.Meets allowed promised)
    {runner : Runner σ} {state : σ} {result : α}
    (hrun : (program.run runner state).1 = .ok result) : promised result := by
  induction program generalizing state with
  | done value =>
      cases hrun
      exact h
  | fail error => cases hrun
  | check before next ih =>
      rw [run] at hrun
      split at hrun
      · cases hrun
      · exact ih h hrun
  | call request next ih =>
      rw [run] at hrun
      split at hrun
      next reply after _ => exact ih reply (h.2 reply) hrun
      next => cases hrun

/-- What allowed calls preserve holds when a run ends. -/
theorem Meets.run_invariant {program : Program α} (h : program.Meets allowed promised)
    {runner : Runner σ} {invariant : σ → Prop}
    (hcall : ∀ state request, invariant state → allowed request →
      invariant (runner.call request state).2)
    {state : σ} (hstate : invariant state) : invariant (program.run runner state).2 := by
  induction program generalizing state with
  | done result => exact hstate
  | fail error => exact hstate
  | check before next ih =>
      rw [run]
      split
      · exact hstate
      · exact ih h hstate
  | call request next ih =>
      have hafter := hcall state request hstate h.1
      rw [run]
      split
      next reply after hanswer =>
        rw [hanswer] at hafter
        exact ih reply (h.2 reply) hafter
      next error after hanswer =>
        rw [hanswer] at hafter
        exact hafter

/-- What the calls of one run preserve holds at each of them and when the run ends. -/
theorem invariant_of_trace {program : Program α} {runner : Runner σ} {invariant : σ → Prop}
    {state : σ} (hstate : invariant state)
    (hcall : ∀ entry ∈ program.trace runner state, invariant entry.1 →
      invariant (runner.call entry.2 entry.1).2) :
    (∀ entry ∈ program.trace runner state, invariant entry.1) ∧
      invariant (program.run runner state).2 := by
  induction program generalizing state with
  | done result => exact ⟨by simp [Program.trace], hstate⟩
  | fail error => exact ⟨by simp [Program.trace], hstate⟩
  | check before next ih =>
      rw [Program.trace] at hcall ⊢
      rw [run]
      split
      · exact ⟨by simp, hstate⟩
      next hopen => exact ih hstate (by simpa [hopen] using hcall)
  | call request next ih =>
      rw [Program.trace, List.forall_mem_cons] at hcall
      rw [Program.trace, List.forall_mem_cons, run]
      have hafter := hcall.1 hstate
      cases hanswer : runner.call request state with
      | mk answer after =>
          rw [hanswer] at hafter hcall
          cases answer with
          | error error => exact ⟨⟨hstate, by simp⟩, hafter⟩
          | ok reply =>
              obtain ⟨hrest, hend⟩ := ih reply hafter hcall.2
              exact ⟨⟨hstate, hrest⟩, hend⟩

/-- What a run changes, one of its calls changes. -/
theorem exists_mem_trace_of_run_ne {β : Type} {runner : Runner σ} (view : σ → β)
    {program : Program α} {state : σ}
    (h : view (program.run runner state).2 ≠ view state) :
    ∃ entry ∈ program.trace runner state,
      view (runner.call entry.2 entry.1).2 ≠ view entry.1 := by
  induction program generalizing state with
  | done result => exact absurd rfl h
  | fail error => exact absurd rfl h
  | check before next ih =>
      rw [run] at h
      rw [trace]
      split at h
      · exact absurd rfl h
      next hopen =>
        rw [if_neg hopen]
        exact ih h
  | call request next ih =>
      rw [trace]
      by_cases hcall : view (runner.call request state).2 = view state
      · rw [run] at h
        cases hanswer : runner.call request state with
        | mk answer after =>
            rw [hanswer] at h hcall
            cases answer with
            | error error => exact absurd hcall h
            | ok reply =>
                rw [← hcall] at h
                obtain ⟨entry, hentry, hchanged⟩ := ih reply h
                exact ⟨entry, List.mem_cons_of_mem _ hentry, hchanged⟩
      · exact ⟨(state, request), List.mem_cons_self, hcall⟩

theorem run_call_of_ok {runner : Runner σ} {request : StoreCall} {state after : σ}
    {reply : request.Reply} (h : runner.call request state = (.ok reply, after))
    (next : request.Reply → Program α) :
    (call request next).run runner state = (next reply).run runner after := by
  rw [run, h]

theorem run_request_of_ok {runner : Runner σ} {request : StoreCall} {state after : σ}
    {reply : request.Reply} (h : runner.call request state = (.ok reply, after))
    (next : request.Reply → Program α) :
    (Program.request request >>= next).run runner state = (next reply).run runner after :=
  run_call_of_ok h next

section firstSome

variable {runner : Runner σ} {program : Program (Option α)} {rest : List (Program (Option α))}
  {state after : σ}

theorem run_firstSome_of_some {result : α}
    (h : program.run runner state = (.ok (some result), after)) :
    (firstSome (program :: rest)).run runner state = (.ok (some result), after) := by
  rw [firstSome, run_bind, h]
  rfl

theorem run_firstSome_of_none (h : program.run runner state = (.ok none, after)) :
    (firstSome (program :: rest)).run runner state = (firstSome rest).run runner after := by
  rw [firstSome, run_bind, h]

/-- Programs without a result that leave the state as it is may be skipped. -/
theorem run_firstSome_append {front : List (Program (Option α))}
    (h : ∀ program ∈ front, program.run runner state = (.ok none, state)) :
    (firstSome (front ++ rest)).run runner state = (firstSome rest).run runner state := by
  induction front with
  | nil => rfl
  | cons program front ih =>
      rw [List.cons_append, run_firstSome_of_none (h program List.mem_cons_self)]
      exact ih fun other hother => h other (List.mem_cons_of_mem _ hother)

end firstSome

end RouterOperator.Program
