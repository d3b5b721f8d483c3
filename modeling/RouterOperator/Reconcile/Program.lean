import RouterOperator.Error
import RouterOperator.Kind

/-!
# Programs over a store

What a pass does is described before it is done: a program is a tree of calls to the object store
and of checks of the deadline, each of which continues with the answer it gets. Any store can run a
program; a call that fails ends it, and so does a check that finds the deadline exceeded.
-/

namespace RouterOperator

/-- How serious a notice is. -/
inductive Severity where
  | normal
  | warning
deriving DecidableEq, Inhabited

/-- The name of a severity. -/
def Severity.name : Severity → String
  | normal => "Normal"
  | warning => "Warning"

/-- The severity of this name. -/
def Severity.ofName? : String → Option Severity
  | "Normal" => some normal
  | "Warning" => some warning
  | _ => none

/-- A notice about a cluster, for people to read. -/
structure Notice where
  severity : Severity
  reason : String
  note : String
deriving DecidableEq, Inhabited

/-- A call to an object store. -/
inductive StoreCall where
  /-- Read an object; an absent one is no failure. -/
  | get (kind : Kind) (ns name : String)
  /-- List the pods with certain labels. -/
  | listPods (ns selector : String)
  /-- Create an object; one that exists already is no failure. -/
  | create (kind : Kind) (ns : String) (object : kind.Object)
  /-- Replace an object that has not changed since it was read. -/
  | replace (kind : Kind) (ns : String) (object : kind.Object)
  /-- Replace the specification of a cluster. -/
  | replaceCluster (cluster : Interconnect)
  /-- Replace the status of a cluster. -/
  | replaceStatus (cluster : Interconnect)
  /-- Publish a notice about a cluster; this never fails. -/
  | publish (cluster : Interconnect) (notice : Notice)

namespace StoreCall

/-- What a call answers when it does not fail. -/
@[reducible] def Reply : StoreCall → Type
  | get kind _ _ => Option kind.Object
  | listPods _ _ => List Pod
  | create _ _ _ | replace _ _ _ | replaceCluster _ | replaceStatus _ | publish _ _ => Unit

/-- Whether a call changes an object. -/
def isWrite : StoreCall → Bool
  | create _ _ _ | replace _ _ _ | replaceCluster _ | replaceStatus _ => true
  | get _ _ _ | listPods _ _ | publish _ _ => false

/-- Whether a call is a notice. -/
def isNotice : StoreCall → Bool
  | publish _ _ => true
  | _ => false

/-- The text of a call. -/
def text : StoreCall → String
  | get kind ns name => s!"get {kind.name} {ns}/{name}"
  | listPods ns selector => s!"list pods {ns} {selector}"
  | create kind ns object => s!"create {kind.name} {ns}/{kind.nameOf object}"
  | replace kind ns object => s!"replace {kind.name} {ns}/{kind.nameOf object}"
  | replaceCluster cluster => s!"replace cluster {cluster.name}"
  | replaceStatus cluster => s!"replace status {cluster.name}"
  | publish _ notice => s!"event {notice.severity.name} {notice.reason}: {notice.note}"

end StoreCall

/-- A program that calls a store and ends with a result or an error. -/
inductive Program (α : Type) : Type where
  | done (result : α)
  | fail (error : Error)
  /-- Goes on unless the deadline is exceeded; `before` says what would come next. -/
  | check (before : String) (next : Program α)
  | call (request : StoreCall) (next : request.Reply → Program α)

/-- Something that runs programs in a state: whether the deadline is exceeded, and what calls do. -/
structure Runner (σ : Type) where
  expired : σ → Bool
  call : (request : StoreCall) → σ → Except Error request.Reply × σ

namespace Program

variable {α β σ : Type}

/-- Continues with the result of a program. -/
def bind (program : Program α) (next : α → Program β) : Program β :=
  match program with
  | done result => next result
  | fail error => fail error
  | check before rest => check before (rest.bind next)
  | call request answer => call request fun reply => (answer reply).bind next

instance : Monad Program where
  pure := done
  bind := bind

/-- Makes a call. -/
def request (request : StoreCall) : Program request.Reply := call request done

/-- Checks the deadline. -/
def checkpoint (before : String) : Program Unit := check before (done ())

/-- Runs programs in order until one has a result. -/
def firstSome : List (Program (Option α)) → Program (Option α)
  | [] => done none
  | program :: rest => do
    match ← program with
    | some result => return some result
    | none => firstSome rest

/-- Runs a program. -/
def run (runner : Runner σ) : Program α → σ → Except Error α × σ
  | done result, state => (.ok result, state)
  | fail error, state => (.error error, state)
  | check before next, state =>
    if runner.expired state then (.error (.deadlineExceeded before), state)
    else next.run runner state
  | call request next, state =>
    match runner.call request state with
    | (.ok reply, state) => (next reply).run runner state
    | (.error error, state) => (.error error, state)

@[simp] theorem pure_eq (result : α) : (pure result : Program α) = done result := rfl

@[simp] theorem bind_done (result : α) (next : α → Program β) :
    (done result >>= next) = next result := rfl

@[simp] theorem bind_fail (error : Error) (next : α → Program β) :
    ((fail error : Program α) >>= next) = fail error := rfl

@[simp] theorem bind_check (before : String) (rest : Program α) (next : α → Program β) :
    (check before rest >>= next) = check before (rest >>= next) := rfl

@[simp] theorem bind_call (request : StoreCall) (answer : request.Reply → Program α)
    (next : α → Program β) :
    (call request answer >>= next) = call request fun reply => answer reply >>= next := rfl

/-- A run of a program with a continuation is a run of the program followed by one of the
continuation. -/
theorem run_bind (runner : Runner σ) (program : Program α) (next : α → Program β) (state : σ) :
    (program >>= next).run runner state =
      match program.run runner state with
      | (.ok result, state) => (next result).run runner state
      | (.error error, state) => (.error error, state) := by
  induction program generalizing state with
  | done result => rfl
  | fail error => rfl
  | check before rest ih =>
      rw [bind_check]
      simp only [run]
      split
      · rfl
      · exact ih state
  | call request answer ih =>
      rw [bind_call]
      simp only [run]
      split
      · exact ih _ _
      · rfl

end Program

end RouterOperator
