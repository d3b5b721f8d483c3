import RouterOperator.Proofs.Shape

/-!
# The steps of a run

A run is a list of steps: checks of the deadline that it passes, the one that stops it if there is
one, and calls with their answers. A disciplined program has each check directly in front of the
call that the check announces. It makes no other call but notices and, behind a write of a workload,
what is laid down for that write, with which it ends. Its runs are described here for every runner,
whatever the deadline does meanwhile.
-/

namespace RouterOperator

/-- A step of a run. -/
inductive Step where
  /-- A check of the deadline that lets the run go on. -/
  | passed (before : String)
  /-- A check of the deadline that ends the run. -/
  | stopped (before : String)
  | called (request : StoreCall) (answer : Except Error request.Reply)

/-- The exchange that a step was, if it was a call that was answered. -/
def Step.exchange? : Step → Option Exchange
  | called request (.ok reply) => some ⟨request, reply⟩
  | _ => none

/-- The last exchange after some steps, `seen` if there was none among them. -/
def lastExchange {σ : Type} (seen : Option Exchange) (steps : List (σ × Step)) : Option Exchange :=
  steps.foldl (fun seen step => step.2.exchange?.or seen) seen

/-- The runner that does the same without a deadline. -/
def Runner.unhurried {σ : Type} (runner : Runner σ) : Runner σ :=
  { runner with expired := fun _ => false }

namespace Program

variable {α β σ : Type}

/-- The steps of a run, in order, each with the state that it is made in. -/
def steps (runner : Runner σ) : Program α → σ → List (σ × Step)
  | done _, _ | fail _, _ => []
  | check before next, state =>
    if runner.expired state then [(state, .stopped before)]
    else (state, .passed before) :: next.steps runner state
  | call request next, state =>
    match runner.call request state with
    | (.ok reply, after) => (state, .called request (.ok reply)) :: (next reply).steps runner after
    | (.error error, _) => [(state, .called request (.error error))]

/-- The calls among the steps are the trace of the run. -/
theorem trace_eq_filterMap_steps (program : Program α) (runner : Runner σ) (state : σ) :
    program.trace runner state = (program.steps runner state).filterMap fun step =>
      match step.2 with
      | .called request _ => some (step.1, request)
      | _ => none := by
  induction program generalizing state with
  | done result => rfl
  | fail error => rfl
  | check before next ih =>
      rw [trace, steps]
      split
      · rfl
      · exact ih state
  | call request next ih =>
      rw [trace, steps]
      cases runner.call request state with
      | mk answer after =>
          cases answer with
          | error error => rfl
          | ok reply => exact congrArg ((state, request) :: ·) (ih reply after)

section steps

variable {runner : Runner σ} {request : StoreCall} {state after : σ}

theorem steps_call_of_ok {reply : request.Reply}
    (h : runner.call request state = (.ok reply, after)) (next : request.Reply → Program α) :
    (call request next).steps runner state =
      (state, .called request (.ok reply)) :: (next reply).steps runner after := by
  rw [steps, h]

/-- A call is a step, whatever comes behind it. -/
theorem exists_steps_call (runner : Runner σ) (request : StoreCall)
    (next : request.Reply → Program α) (state : σ) :
    ∃ later, (call request next).steps runner state =
      (state, .called request (runner.call request state).1) :: later := by
  rw [steps]
  cases runner.call request state with
  | mk answer after =>
      cases answer with
      | ok reply => exact ⟨_, rfl⟩
      | error error => exact ⟨_, rfl⟩

end steps

/-- Where a step stands among the steps of a call. -/
inductive CallSplit (runner : Runner σ) (request : StoreCall) (next : request.Reply → Program α)
    (state : σ) : List (σ × Step) → σ × Step → List (σ × Step) → Prop where
  | failed {error after} (answer : runner.call request state = (.error error, after)) :
    CallSplit runner request next state [] (state, .called request (.error error)) []
  | answered {reply after} (answer : runner.call request state = (.ok reply, after)) :
    CallSplit runner request next state [] (state, .called request (.ok reply))
      ((next reply).steps runner after)
  | later {reply after front step rest} (answer : runner.call request state = (.ok reply, after))
    (steps : (next reply).steps runner after = front ++ step :: rest) :
    CallSplit runner request next state ((state, .called request (.ok reply)) :: front) step rest

/-- Where a step stands among the steps of a check and a call behind it. -/
inductive CheckSplit (runner : Runner σ) (before : String) (request : StoreCall)
    (next : request.Reply → Program α) (state : σ) :
    List (σ × Step) → σ × Step → List (σ × Step) → Prop where
  | stopped (expired : runner.expired state = true) :
    CheckSplit runner before request next state [] (state, .stopped before) []
  | passed («open» : runner.expired state = false) :
    CheckSplit runner before request next state [] (state, .passed before)
      ((call request next).steps runner state)
  | called {front step rest} («open» : runner.expired state = false)
    (split : CallSplit runner request next state front step rest) :
    CheckSplit runner before request next state ((state, .passed before) :: front) step rest

/-- Without a deadline, a check and the call behind it are both made. -/
theorem exists_suppressed (runner : Runner σ) (before : String) (request : StoreCall)
    (next : request.Reply → Program α) (state : σ) :
    ∃ answer later, (check before (call request next)).steps runner.unhurried state =
      (state, .passed before) :: (state, .called request answer) :: later := by
  obtain ⟨later, hlater⟩ := exists_steps_call runner.unhurried request next state
  refine ⟨(runner.unhurried.call request state).1, later, ?_⟩
  exact congrArg ((state, Step.passed before) :: ·) hlater

theorem steps_unhurried_check_call {runner : Runner σ} {request : StoreCall} {state after : σ}
    {reply : request.Reply} (h : runner.call request state = (.ok reply, after)) (before : String)
    (next : request.Reply → Program α) :
    (check before (call request next)).steps runner.unhurried state =
      (state, .passed before) :: (state, .called request (.ok reply)) ::
        (next reply).steps runner.unhurried after := by
  have hcall : runner.unhurried.call request state = (.ok reply, after) := h
  exact congrArg ((state, Step.passed before) :: ·) (steps_call_of_ok hcall next)

section splits

variable {runner : Runner σ} {before : String} {request : StoreCall}
  {next : request.Reply → Program α} {state : σ} {front rest : List (σ × Step)} {step : σ × Step}

theorem callSplit (h : (call request next).steps runner state = front ++ step :: rest) :
    CallSplit runner request next state front step rest := by
  cases hanswer : runner.call request state with
  | mk answer after =>
      rw [steps, hanswer] at h
      cases answer with
      | error error =>
          cases front with
          | nil =>
              cases h
              exact .failed hanswer
          | cons first front => simp at h
      | ok reply =>
          cases front with
          | nil =>
              cases h
              exact .answered hanswer
          | cons first front =>
              rw [List.cons_append, List.cons.injEq] at h
              obtain ⟨rfl, hrest⟩ := h
              exact .later hanswer hrest

theorem checkSplit
    (h : (check before (call request next)).steps runner state = front ++ step :: rest) :
    CheckSplit runner before request next state front step rest := by
  rw [steps] at h
  split at h
  next expired =>
    cases front with
    | nil =>
        cases h
        exact .stopped expired
    | cons first front => simp at h
  next hopen =>
    have hopen : runner.expired state = false := by simpa using hopen
    cases front with
    | nil =>
        cases h
        exact .passed hopen
    | cons first front =>
        rw [List.cons_append, List.cons.injEq] at h
        obtain ⟨rfl, hrest⟩ := h
        exact .called hopen (callSplit hrest)

/-- A script without checks makes its calls one by one, so every step is the call in its place. -/
theorem called_of_script {result : α} {moves : List Move}
    (unchecked : ∀ move ∈ moves, move.before = none)
    (h : (script result moves).steps runner state = front ++ step :: rest) :
    ∃ move answer, moves[front.length]? = some move ∧ step.2 = .called move.request answer := by
  induction moves generalizing state front with
  | nil => simp [script, steps] at h
  | cons move moves ih =>
      obtain ⟨hbefore, hrest⟩ := List.forall_mem_cons.mp unchecked
      obtain ⟨before, request⟩ := move
      obtain rfl : before = none := hbefore
      cases callSplit h with
      | failed answer => exact ⟨_, _, rfl, rfl⟩
      | answered answer => exact ⟨_, _, rfl, rfl⟩
      | later answer steps =>
          obtain ⟨move, answer, hmove, hstep⟩ := ih hrest steps
          exact ⟨move, answer, hmove, hstep⟩

end splits

section discipline

variable (announces : Option Exchange → String → StoreCall → Prop)
  (records : Option Exchange → StoreCall → List Move → Prop)

/-- A program with a check in front of each call that announces it in the light of the last
exchange. Only notices have none, and the calls that record a write of a workload, with which the
program ends; its result is `final` then. -/
inductive Disciplined (final : α → Prop) : Option Exchange → Program α → Prop where
  | done {seen result} : Disciplined final seen (done result)
  | fail {seen error} : Disciplined final seen (fail error)
  | check {seen before request next} (announced : announces seen before request)
    (other : request.writesWorkload = false)
    (rest : ∀ reply, Disciplined final (some ⟨request, reply⟩) (next reply)) :
    Disciplined final seen (check before (call request next))
  | record {seen before request next result moves} (announced : announces seen before request)
    (recorded : records seen request moves) (ends : final result)
    (rest : ∀ reply, next reply = script result moves) :
    Disciplined final seen (check before (call request next))
  | notice {seen about notice next}
    (rest : Disciplined final (some ⟨.publish about notice, ()⟩) (next ())) :
    Disciplined final seen (call (.publish about notice) next)

/-- How a step stands among those before and those behind it, in a run with this result that would
have the steps `unhurried` if there were no deadline. -/
inductive Orderly (runner : Runner σ) (seen : Option Exchange) (result : Except Error α × σ)
    (unhurried : List (σ × Step)) : List (σ × Step) → σ × Step → List (σ × Step) → Prop where
  | passed {front state before request answer later}
    (announced : announces (lastExchange seen front) before request) :
    Orderly runner seen result unhurried front (state, .passed before)
      ((state, .called request answer) :: later)
  | stopped {front state before request}
    (announced : announces (lastExchange seen front) before request)
    (ends : result = (.error (.deadlineExceeded before), state))
    (suppressed : ∃ answer later,
      unhurried = front ++ (state, .passed before) :: (state, .called request answer) :: later) :
    Orderly runner seen result unhurried front (state, .stopped before) []
  | checked {front state before request answer rest}
    (announced : announces (lastExchange seen front) before request)
    (recorded : request.writesWorkload = true → ∀ reply, answer = .ok reply →
      ∃ moves last, records (lastExchange seen front) request moves ∧
        rest = (script last moves).steps runner (runner.call request state).2 ∧
        result = (script last moves).run runner (runner.call request state).2) :
    Orderly runner seen result unhurried (front ++ [(state, .passed before)])
      (state, .called request answer) rest
  | notice {front state about notice answer rest} :
    Orderly runner seen result unhurried front (state, .called (.publish about notice) answer) rest
  | record {front state write reply moves between step rest} {last : α}
    (recorded : records (lastExchange seen front) write moves)
    (steps : (script last moves).steps runner (runner.call write state).2 =
      between ++ step :: rest) :
    Orderly runner seen result unhurried
      (front ++ (state, .called write (.ok reply)) :: between) step rest

variable {announces records} {final : α → Prop} {seen : Option Exchange} {program : Program α}

theorem Disciplined.bind {final' : β → Prop} {next : α → Program β}
    (h : Disciplined announces records final seen program)
    (hfinal : ∀ result, final result → ∃ last, next result = .done last ∧ final' last)
    (hnext : ∀ seen result, Disciplined announces records final' seen (next result)) :
    Disciplined announces records final' seen (program >>= next) := by
  induction h with
  | done => exact hnext _ _
  | fail => exact .fail
  | check announced other rest ih => exact .check announced other ih
  | record announced recorded ends rest =>
      obtain ⟨last, hlast, ends⟩ := hfinal _ ends
      refine .record announced recorded ends fun reply => ?_
      rw [rest reply]
      exact script_bind_done hlast _
  | notice rest ih => exact .notice ih

/-- Stages that are run in order until one has a result. -/
theorem Disciplined.firstSome {stages : List (Program (Option α))}
    (h : ∀ stage ∈ stages, ∀ seen,
      Disciplined announces records (fun result => result.isSome = true) seen stage) :
    Disciplined announces records (fun result => result.isSome = true) seen
      (Program.firstSome stages) := by
  induction stages generalizing seen with
  | nil => exact .done
  | cons stage rest ih =>
      refine (h stage List.mem_cons_self seen).bind ?_ ?_
      · intro result hresult
        obtain ⟨value, rfl⟩ := Option.isSome_iff_exists.mp hresult
        exact ⟨some value, rfl, rfl⟩
      · intro seen result
        cases result with
        | some value => exact .done
        | none => exact ih fun other hother => h other (List.mem_cons_of_mem _ hother)

variable {runner : Runner σ} {state : σ} {front rest : List (σ × Step)} {step : σ × Step}

/-- More steps in front. -/
theorem Orderly.behind {later : Option Exchange} {result : Except Error α × σ}
    {unhurried : List (σ × Step)}
    (h : Orderly announces records runner later result unhurried front step rest)
    (first : List (σ × Step)) (hfirst : lastExchange seen first = later) :
    Orderly announces records runner seen result (first ++ unhurried) (first ++ front) step
      rest := by
  have hseen (front : List (σ × Step)) :
      lastExchange seen (first ++ front) = lastExchange later front := by
    rw [← hfirst]
    exact List.foldl_append
  cases h with
  | passed announced => exact .passed (by rwa [hseen])
  | stopped announced ends suppressed =>
      obtain ⟨answer, later, hunhurried⟩ := suppressed
      refine .stopped (by rwa [hseen]) ends ⟨answer, later, ?_⟩
      rw [hunhurried, List.append_assoc]
  | checked announced recorded =>
      rw [← List.append_assoc]
      exact .checked (by rwa [hseen]) (by rwa [hseen])
  | notice => exact .notice
  | record recorded steps =>
      rw [← List.append_assoc]
      exact .record (by rwa [hseen]) steps

/-- The call behind the first check of a run. -/
theorem Orderly.first_call {before : String} {request : StoreCall}
    {answer : Except Error request.Reply} {result : Except Error α × σ}
    {unhurried : List (σ × Step)} (announced : announces seen before request)
    (recorded : request.writesWorkload = true → ∀ reply, answer = .ok reply →
      ∃ moves last, records seen request moves ∧
        rest = (script last moves).steps runner (runner.call request state).2 ∧
        result = (script last moves).run runner (runner.call request state).2) :
    Orderly announces records runner seen result unhurried [(state, .passed before)]
      (state, .called request answer) rest := by
  rw [← List.nil_append [(state, Step.passed before)]]
  exact .checked announced recorded

/-- Every step of a run of a disciplined program stands as it should. -/
theorem Disciplined.orderly (h : Disciplined announces records final seen program)
    (hsteps : program.steps runner state = front ++ step :: rest) :
    Orderly announces records runner seen (program.run runner state)
      (program.steps runner.unhurried state) front step rest := by
  induction h generalizing state front with
  | done => simp [steps] at hsteps
  | fail => simp [steps] at hsteps
  | @check seen before request next announced other program ih =>
      cases checkSplit hsteps with
      | stopped expired =>
          exact .stopped announced (run_check_of_expired expired _ _).1
            (exists_suppressed runner before request next state)
      | passed hopen =>
          obtain ⟨later, hlater⟩ := exists_steps_call runner request next state
          rw [hlater]
          exact .passed announced
      | called hopen split =>
          cases split with
          | failed answer =>
              exact .first_call announced fun workload => nomatch other.symm.trans workload
          | answered answer =>
              exact .first_call announced fun workload => nomatch other.symm.trans workload
          | @later reply after front step rest answer steps =>
              rw [(run_check_of_open hopen _ _).1, run_call_of_ok answer,
                steps_unhurried_check_call answer]
              exact (ih reply steps).behind
                [(state, .passed before), (state, .called request (.ok reply))] rfl
  | @record seen before request next result moves announced recorded ends program =>
      cases checkSplit hsteps with
      | stopped expired =>
          exact .stopped announced (run_check_of_expired expired _ _).1
            (exists_suppressed runner before request next state)
      | passed hopen =>
          obtain ⟨later, hlater⟩ := exists_steps_call runner request next state
          rw [hlater]
          exact .passed announced
      | called hopen split =>
          cases split with
          | failed answer => exact .first_call announced fun _ _ hreply => nomatch hreply
          | @answered reply after answer =>
              -- nothing but the script is left
              refine .first_call announced fun _ _ _ => ⟨moves, result, recorded, ?_, ?_⟩
              · rw [program reply, answer]
              · rw [(run_check_of_open hopen _ _).1, run_call_of_ok answer, program reply, answer]
          | @later reply after front step rest answer steps =>
              rw [program reply] at steps
              have hafter : (runner.call request state).2 = after := congrArg Prod.snd answer
              rw [← hafter] at steps
              have hseen : lastExchange seen [(state, Step.passed before)] = seen := rfl
              rw [← hseen] at recorded
              exact .record recorded steps
  | @notice seen about notice next program ih =>
      cases callSplit hsteps with
      | failed answer => exact .notice
      | answered answer => exact .notice
      | @later reply after front step rest answer steps =>
          have hunhurried : runner.unhurried.call (.publish about notice) state =
              (.ok reply, after) := answer
          rw [run_call_of_ok answer, steps_call_of_ok hunhurried]
          exact (ih steps).behind [(state, .called (.publish about notice) (.ok reply))] rfl

end discipline

end Program

end RouterOperator
