import RouterOperator.Proofs.Program

/-!
# Programs that decide before they write

A program that reads until it has decided what to do, and then makes a fixed list of calls whatever
they answer, is told apart by what it has read and what it decides. `Program.Decides` relates the
two. A run of such a program is a run of reads, which change nothing of interest, followed by a run
of the list; so what all runs do is a case analysis of what may be decided.
-/

namespace RouterOperator

/-- Whether a call reads. -/
def StoreCall.isRead : StoreCall → Bool
  | get _ _ _ | listPods _ _ => true
  | _ => false

/-- A call with its answer. -/
structure Exchange where
  request : StoreCall
  reply : request.Reply

/-- A call that is made whatever calls before it answered, and the check of the deadline in front of
it, if there is one. -/
structure Move where
  before : Option String := none
  request : StoreCall

namespace Program

variable {α β σ : Type}

/-- Makes calls in order, then ends with a result. -/
def script (result : α) : List Move → Program α
  | [] => done result
  | ⟨none, request⟩ :: rest => call request fun _ => script result rest
  | ⟨some before, request⟩ :: rest => check before (call request fun _ => script result rest)

/-- A program reads and decides on calls and a result, in the light of all that was read. -/
inductive Decides (plans : List Exchange → List Move → α → Prop) :
    List Exchange → Program α → Prop where
  | script {known moves result} (planned : plans known moves result) :
    Decides plans known (script result moves)
  | check {known before next} (rest : Decides plans known next) :
    Decides plans known (check before next)
  | read {known request next} (reads : request.isRead = true)
    (rest : ∀ reply, Decides plans (known ++ [⟨request, reply⟩]) (next reply)) :
    Decides plans known (call request next)

section decides

variable {plans : List Exchange → List Move → α → Prop} {known : List Exchange}

theorem bind_assoc {γ : Type} (program : Program α) (next : α → Program β) (last : β → Program γ) :
    (program >>= next >>= last) = program >>= fun result => next result >>= last := by
  induction program with
  | done result => rfl
  | fail error => rfl
  | check before rest ih => exact congrArg (check before) ih
  | call request answer ih => exact congrArg (call request) (funext ih)

theorem firstSome_singleton (program : Program (Option α)) : firstSome [program] = program := by
  have hbind (next : Option α → Program (Option α)) (hnext : ∀ result, next result = done result) :
      program.bind next = program := by
    induction program with
    | done result => exact hnext result
    | fail error => rfl
    | check before rest ih => exact congrArg (check before) ih
    | call request answer ih => exact congrArg (call request) (funext ih)
  refine hbind _ fun result => ?_
  cases result <;> rfl

/-- A script followed by another one is a script. -/
theorem script_bind {result : α} {next : α → Program β} {rest : List Move} {last : β}
    (hnext : next result = script last rest) (moves : List Move) :
    (script result moves >>= next) = script last (moves ++ rest) := by
  induction moves with
  | nil => exact hnext
  | cons move moves ih =>
      obtain ⟨before, request⟩ := move
      cases before with
      | none => exact congrArg (call request) (funext fun _ => ih)
      | some before =>
          exact congrArg (fun program => check before (call request fun _ => program)) ih

theorem script_bind_done {result : α} {next : α → Program β} {last : β}
    (hnext : next result = done last) (moves : List Move) :
    (script result moves >>= next) = script last moves := by
  have hscript : next result = script last [] := hnext
  rw [script_bind hscript, List.append_nil]

theorem Decides.done {result : α} (planned : plans known [] result) :
    Decides plans known (done result) := .script planned

/-- A decision may be put in other words, in the light of all that was read before. -/
theorem Decides.imp {program : Program α} {plans' : List Exchange → List Move → α → Prop}
    (h : Decides plans known program)
    (himp : ∀ later moves result, known ⊆ later → plans later moves result →
      plans' later moves result) : Decides plans' known program := by
  induction h with
  | script planned => exact .script (himp _ _ _ (List.Subset.refl _) planned)
  | check rest ih => exact .check (ih himp)
  | read reads rest ih =>
      refine .read reads fun reply => ih reply fun later moves result hlater => ?_
      exact himp later moves result (List.Subset.trans (List.subset_append_left _ _) hlater)

/-- The rule of sequencing: behind a decision to call nothing the rest may go on reading, behind any
other the rest is a script as well. -/
theorem Decides.bind {program : Program α} {next : α → Program β}
    {plans' : List Exchange → List Move → β → Prop} (h : Decides plans known program)
    (hnext : ∀ known moves result, plans known moves result →
      (moves = [] ∧ Decides plans' known (next result)) ∨
        ∃ rest last, next result = Program.script last rest ∧
          plans' known (moves ++ rest) last) :
    Decides plans' known (program >>= next) := by
  induction h with
  | @script known moves result planned =>
      rcases hnext known moves result planned with ⟨rfl, hrest⟩ | ⟨rest, last, heq, hplanned⟩
      · exact hrest
      · rw [script_bind heq]
        exact .script hplanned
  | check rest ih => exact .check ih
  | read reads rest ih => exact .read reads ih

end decides

section calls

variable {runner : Runner σ} {request : StoreCall} {state after : σ}

theorem run_call_of_error {error : Error} (h : runner.call request state = (.error error, after))
    (next : request.Reply → Program α) :
    (call request next).run runner state = (.error error, after) := by
  rw [run, h]

theorem trace_call_of_ok {reply : request.Reply}
    (h : runner.call request state = (.ok reply, after)) (next : request.Reply → Program α) :
    (call request next).trace runner state =
      (state, request) :: (next reply).trace runner after := by
  rw [trace, h]

theorem trace_call_of_error {error : Error} (h : runner.call request state = (.error error, after))
    (next : request.Reply → Program α) :
    (call request next).trace runner state = [(state, request)] := by
  rw [trace, h]

theorem run_check_of_expired (h : runner.expired state = true) (before : String)
    (next : Program α) :
    (check before next).run runner state = (.error (.deadlineExceeded before), state) ∧
      (check before next).trace runner state = [] := by
  rw [run, trace, if_pos h, if_pos h]
  exact ⟨rfl, rfl⟩

theorem run_check_of_open (h : runner.expired state = false) (before : String)
    (next : Program α) :
    (check before next).run runner state = next.run runner state ∧
      (check before next).trace runner state = next.trace runner state := by
  rw [run, trace, if_neg (by simp [h]), if_neg (by simp [h])]
  exact ⟨rfl, rfl⟩

end calls

/-- A read that was answered, with the state that it was made in. -/
structure Answered (runner : Runner σ) extends Exchange where
  state : σ
  reads : request.isRead = true
  answer : (runner.call request state).1 = .ok reply

/-- The entry of a trace for a read. -/
def Answered.entry {runner : Runner σ} (read : Answered runner) : σ × StoreCall :=
  (read.state, read.request)

/-- The deadline is exceeded in a state, or a read fails there. -/
def Stops (runner : Runner σ) (state : σ) : Prop :=
  runner.expired state = true ∨
    ∃ request error, StoreCall.isRead request = true ∧
      (runner.call request state).1 = .error error

/-- What may become of a program that reads and decides: it stops before it has decided, or it goes
on with a script. Reads keep `kept`. -/
inductive Course (plans : List Exchange → List Move → α → Prop) (known : List Exchange)
    (program : Program α) (runner : Runner σ) (kept : σ → Prop) (state : σ) : Prop where
  | stopped {last error} (keeps : kept last) (stops : Stops runner last)
    (fails : (program.run runner state).1 = .error error)
    (after : kept (program.run runner state).2)
    (reads : ∀ entry ∈ program.trace runner state, entry.2.isRead = true)
  | decided (answers : List (Answered runner)) {after moves result}
    (keeps : kept after) (kept : ∀ read ∈ answers, kept read.state)
    (planned : plans (known ++ answers.map (·.toExchange)) moves result)
    (run : program.run runner state = (script result moves).run runner after)
    (trace : program.trace runner state =
      answers.map Answered.entry ++ (script result moves).trace runner after)

/-- Every run of a program that reads and decides takes such a course. -/
theorem Decides.course {plans : List Exchange → List Move → α → Prop} {known : List Exchange}
    {program : Program α} (h : Decides plans known program) {runner : Runner σ} {kept : σ → Prop}
    (hreads : ∀ state request, StoreCall.isRead request = true → kept state →
      kept (runner.call request state).2)
    {state : σ} (hstate : kept state) : Course plans known program runner kept state := by
  induction h generalizing state with
  | script planned =>
      exact .decided [] hstate (by simp) (by simpa using planned) rfl rfl
  | @check known before next rest ih =>
      cases hexpired : runner.expired state with
      | true =>
          obtain ⟨hrun, htrace⟩ := run_check_of_expired hexpired before next
          refine .stopped hstate (.inl hexpired) (by rw [hrun]) (by rw [hrun]; exact hstate) ?_
          rw [htrace]
          simp
      | false =>
          obtain ⟨hrun, htrace⟩ := run_check_of_open hexpired before next
          cases ih hstate with
          | stopped keeps stops fails after reads =>
              exact .stopped keeps stops (hrun ▸ fails) (hrun ▸ after) (htrace ▸ reads)
          | decided answers keeps kept planned run trace =>
              exact .decided answers keeps kept planned (hrun.trans run) (htrace.trans trace)
  | @read known request next reads rest ih =>
      have hafter := hreads state request reads hstate
      cases hcall : runner.call request state with
      | mk answer after =>
          rw [hcall] at hafter
          cases answer with
          | error error =>
              refine .stopped hstate (.inr ⟨request, error, reads, by rw [hcall]⟩)
                (by rw [run_call_of_error hcall]) (by rw [run_call_of_error hcall]; exact hafter) ?_
              rw [trace_call_of_error hcall]
              simpa using reads
          | ok reply =>
              have hrun := run_call_of_ok hcall next
              have htrace := trace_call_of_ok hcall next
              cases ih reply hafter with
              | stopped keeps stops fails kept reads' =>
                  refine .stopped keeps stops (hrun ▸ fails) (hrun ▸ kept) ?_
                  rw [htrace]
                  exact List.forall_mem_cons.mpr ⟨reads, reads'⟩
              | decided answers keeps kept planned run trace =>
                  let first : Answered runner := ⟨⟨request, reply⟩, state, reads, by rw [hcall]⟩
                  refine .decided (first :: answers) keeps
                    (List.forall_mem_cons.mpr ⟨hstate, kept⟩) ?_ (hrun.trans run)
                    (htrace.trans (congrArg ((state, request) :: ·) trace))
                  simpa [first] using planned

section runs

variable {runner : Runner σ} {state : σ}

/-- Programs that run alike may be put in each other's place. -/
theorem run_bind_congr {program other : Program α}
    (h : program.run runner state = other.run runner state) (next : α → Program β) :
    (program >>= next).run runner state = (other >>= next).run runner state := by
  rw [run_bind, run_bind, h]

/-- A call of a run was answered if another one follows. -/
theorem ok_of_trace_eq {program : Program α} {front rest : List (σ × StoreCall)}
    {entry next : σ × StoreCall}
    (h : program.trace runner state = front ++ entry :: next :: rest) :
    ∃ reply, (runner.call entry.2 entry.1).1 = .ok reply := by
  induction program generalizing state front with
  | done result => simp [Program.trace] at h
  | fail error => simp [Program.trace] at h
  | check before program ih =>
      rw [Program.trace] at h
      split at h
      · simp at h
      · exact ih h
  | call request program ih =>
      rw [Program.trace] at h
      cases hanswer : runner.call request state with
      | mk answer after =>
          rw [hanswer] at h
          cases front with
          | nil =>
              rw [List.nil_append, List.cons.injEq] at h
              obtain ⟨rfl, hrest⟩ := h
              cases answer with
              | error error => cases hrest
              | ok reply => exact ⟨reply, congrArg Prod.fst hanswer⟩
          | cons first front =>
              rw [List.cons_append, List.cons.injEq] at h
              cases answer with
              | error error => simp at h
              | ok reply => exact ih reply h.2

/-- Every call of a run that ends with a result was answered. -/
theorem ok_of_run_ok {program : Program α} {result : α}
    (h : (program.run runner state).1 = .ok result) :
    ∀ entry ∈ program.trace runner state, ∃ reply, (runner.call entry.2 entry.1).1 = .ok reply := by
  induction program generalizing state with
  | done result => simp [Program.trace]
  | fail error => simp [Program.trace]
  | check before program ih =>
      cases hexpired : runner.expired state with
      | true =>
          rw [(run_check_of_expired hexpired before program).2]
          simp
      | false =>
          obtain ⟨hrun, htrace⟩ := run_check_of_open hexpired before program
          rw [htrace]
          exact ih (hrun ▸ h)
  | call request program ih =>
      cases hcall : runner.call request state with
      | mk answer after =>
          cases answer with
          | error error =>
              rw [run_call_of_error hcall] at h
              cases h
          | ok reply =>
              rw [run_call_of_ok hcall] at h
              rw [trace_call_of_ok hcall]
              exact List.forall_mem_cons.mpr ⟨⟨reply, congrArg Prod.fst hcall⟩, ih reply h⟩

/-- A call that fails ends the run. -/
theorem ends_of_error {program : Program α} {front rest : List (σ × StoreCall)}
    {entry : σ × StoreCall} {error : Error} {after : σ}
    (h : program.trace runner state = front ++ entry :: rest)
    (hcall : runner.call entry.2 entry.1 = (.error error, after)) :
    rest = [] ∧ program.run runner state = (.error error, after) := by
  induction program generalizing state front with
  | done result => simp [Program.trace] at h
  | fail error => simp [Program.trace] at h
  | check before program ih =>
      cases hexpired : runner.expired state with
      | true => simp [(run_check_of_expired hexpired before program).2] at h
      | false =>
          obtain ⟨hrun, htrace⟩ := run_check_of_open hexpired before program
          rw [hrun]
          exact ih (htrace ▸ h)
  | call request program ih =>
      rw [Program.trace] at h
      cases front with
      | nil =>
          rw [List.nil_append, List.cons.injEq] at h
          obtain ⟨rfl, hrest⟩ := h
          rw [hcall] at hrest
          exact ⟨hrest.symm, run_call_of_error hcall program⟩
      | cons first front =>
          rw [List.cons_append, List.cons.injEq] at h
          cases hanswer : runner.call request state with
          | mk answer later =>
              rw [hanswer] at h
              cases answer with
              | error error => simp at h
              | ok reply =>
                  rw [run_call_of_ok hanswer]
                  exact ih reply h.2

/-- A program that reads and decides ends with a result if nothing stops it. -/
theorem Decides.exists_ok {plans : List Exchange → List Move → α → Prop} {known : List Exchange}
    {program : Program α} (h : Decides plans known program)
    (hopen : ∀ state, runner.expired state = false)
    (hcalls : ∀ entry ∈ program.trace runner state,
      ∃ reply, (runner.call entry.2 entry.1).1 = .ok reply) :
    ∃ result, (program.run runner state).1 = .ok result := by
  have hcall {request : StoreCall} {next : request.Reply → Program α} {state : σ}
      (ih : ∀ reply after, (∀ entry ∈ (next reply).trace runner after,
          ∃ reply, (runner.call entry.2 entry.1).1 = .ok reply) →
        ∃ result, ((next reply).run runner after).1 = .ok result)
      (hcalls : ∀ entry ∈ (call request next).trace runner state,
        ∃ reply, (runner.call entry.2 entry.1).1 = .ok reply) :
      ∃ result, ((call request next).run runner state).1 = .ok result := by
    cases hanswer : runner.call request state with
    | mk answer after =>
        cases answer with
        | error error =>
            rw [trace_call_of_error hanswer] at hcalls
            obtain ⟨reply, hreply⟩ := hcalls _ (List.mem_singleton_self _)
            exact nomatch (congrArg Prod.fst hanswer).symm.trans hreply
        | ok reply =>
            rw [trace_call_of_ok hanswer] at hcalls
            rw [run_call_of_ok hanswer]
            exact ih reply after (List.forall_mem_cons.mp hcalls).2
  induction h generalizing state with
  | @script known moves result planned =>
      clear planned
      induction moves generalizing state with
      | nil => exact ⟨result, rfl⟩
      | cons move moves ih =>
          obtain ⟨before, request⟩ := move
          cases before with
          | none => exact hcall (fun _ _ => ih) hcalls
          | some before =>
              obtain ⟨hrun, htrace⟩ := run_check_of_open (hopen state) before
                (call request fun _ => Program.script result moves)
              rw [Program.script, htrace] at hcalls
              rw [Program.script, hrun]
              exact hcall (fun _ _ => ih) hcalls
  | @check known before next rest ih =>
      obtain ⟨hrun, htrace⟩ := run_check_of_open (hopen state) before next
      rw [hrun]
      exact ih (htrace ▸ hcalls)
  | read reads rest ih => exact hcall (fun reply _ => ih reply) hcalls

/-- A run of a script makes calls of the script, in order and without gaps. -/
theorem trace_script_initial (runner : Runner σ) (result : α) (moves : List Move) (state : σ) :
    ((script result moves).trace runner state).map Prod.snd <+: moves.map Move.request := by
  induction moves generalizing state with
  | nil => exact List.nil_prefix
  | cons move rest ih =>
      obtain ⟨before, request⟩ := move
      have hcall : ((call request fun _ => script result rest).trace runner state).map Prod.snd <+:
          request :: rest.map Move.request := by
        rw [Program.trace, List.map_cons, List.cons_prefix_cons]
        refine ⟨rfl, ?_⟩
        cases runner.call request state with
        | mk answer after =>
            cases answer with
            | ok reply => exact ih after
            | error error => exact List.nil_prefix
      cases before with
      | none => exact hcall
      | some before =>
          rw [script, Program.trace]
          split
          · exact List.nil_prefix
          · exact hcall

theorem exists_move_of_mem_trace {result : α} {moves : List Move} {entry : σ × StoreCall}
    (h : entry ∈ (script result moves).trace runner state) :
    ∃ move ∈ moves, move.request = entry.2 :=
  List.mem_map.mp ((trace_script_initial runner result moves state).subset (List.mem_map_of_mem h))

/-- The first call of a script is made in the state that the script is run in, and the others are
made once it was answered. -/
theorem mem_trace_script_cases {result : α} {move : Move} {rest : List Move} {entry : σ × StoreCall}
    (h : entry ∈ (script result (move :: rest)).trace runner state) :
    entry = (state, move.request) ∨
      ∃ reply after, runner.call move.request state = (.ok reply, after) ∧
        entry ∈ (script result rest).trace runner after := by
  obtain ⟨before, request⟩ := move
  have hcall (h : entry ∈ (call request fun _ => script result rest).trace runner state) :
      entry = (state, request) ∨ ∃ reply after, runner.call request state = (.ok reply, after) ∧
        entry ∈ (script result rest).trace runner after := by
    rw [Program.trace, List.mem_cons] at h
    refine h.imp_right fun hrest => ?_
    cases hanswer : runner.call request state with
    | mk answer after =>
        rw [hanswer] at hrest
        cases answer with
        | error error => cases hrest
        | ok reply => exact ⟨reply, after, rfl, hrest⟩
  cases before with
  | none => exact hcall h
  | some before =>
      rw [script, Program.trace] at h
      split at h
      · cases h
      · exact hcall h

theorem mem_trace_script_cons {result : α} {move : Move} {rest : List Move} {entry : σ × StoreCall}
    (h : entry ∈ (script result (move :: rest)).trace runner state) :
    entry = (state, move.request) ∨ ∃ other ∈ rest, entry.2 = other.request := by
  refine (mem_trace_script_cases h).imp_right fun ⟨reply, after, hanswer, hrest⟩ => ?_
  obtain ⟨other, hother, hsame⟩ := exists_move_of_mem_trace hrest
  exact ⟨other, hother, hsame.symm⟩

/-- A script that ends with a result ends with its own, after all its calls. -/
theorem trace_script_of_ok {result value : α} {moves : List Move}
    (h : ((script result moves).run runner state).1 = .ok value) :
    value = result ∧
      ((script result moves).trace runner state).map Prod.snd = moves.map Move.request := by
  induction moves generalizing state with
  | nil =>
      cases h
      exact ⟨rfl, rfl⟩
  | cons move rest ih =>
      obtain ⟨before, request⟩ := move
      have hcall (h : ((call request fun _ => script result rest).run runner state).1 = .ok value) :
          value = result ∧ ((call request fun _ => script result rest).trace runner state).map
            Prod.snd = request :: rest.map Move.request := by
        cases hanswer : runner.call request state with
        | mk answer after =>
            cases answer with
            | error error =>
                rw [run_call_of_error hanswer] at h
                cases h
            | ok reply =>
                rw [run_call_of_ok hanswer] at h
                obtain ⟨hvalue, htrace⟩ := ih h
                rw [trace_call_of_ok hanswer]
                exact ⟨hvalue, congrArg (request :: ·) htrace⟩
      cases before with
      | none => exact hcall h
      | some before =>
          cases hexpired : runner.expired state with
          | true =>
              rw [script, (run_check_of_expired hexpired _ _).1] at h
              cases h
          | false =>
              rw [script, (run_check_of_open hexpired _ _).1] at h
              rw [script, (run_check_of_open hexpired _ _).2]
              exact hcall h

/-- Every call of a program that reads and decides is a read or one that it has decided on. -/
theorem Decides.mem_trace {plans : List Exchange → List Move → α → Prop} {known : List Exchange}
    {program : Program α} (h : Decides plans known program) (runner : Runner σ) (state : σ) :
    ∀ entry ∈ program.trace runner state, entry.2.isRead = true ∨
      ∃ later moves result, plans later moves result ∧ ∃ move ∈ moves, move.request = entry.2 := by
  intro entry hentry
  have hcourse : Course plans known program runner (fun _ => True) state :=
    h.course (fun _ _ _ _ => trivial) trivial
  cases hcourse with
  | stopped keeps stops fails after reads => exact .inl (reads entry hentry)
  | decided answers keeps kept planned run trace =>
      rw [trace, List.mem_append] at hentry
      rcases hentry with hread | hscript
      · obtain ⟨read, -, rfl⟩ := List.mem_map.mp hread
        exact .inl read.reads
      · exact .inr ⟨_, _, _, planned, exists_move_of_mem_trace hscript⟩

end runs

end Program

end RouterOperator
