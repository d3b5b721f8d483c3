import RouterOperator.Proofs.Decision
import RouterOperator.Proofs.TlsGate

/-!
# The shape of a pass

Whatever the store answers and whenever it fails, a pass writes at most one object besides the
cluster, then at most the cluster, and it makes no call after one that failed. The outcome says
which of the few shapes the calls have.
-/

namespace RouterOperator

namespace StoreCall

/-- Whether a call writes an object derived from the cluster. -/
def writesDerived : StoreCall → Bool
  | create kind _ _ | replace kind _ _ => kind ≠ .interconnect
  | _ => false

/-- Whether a call writes the cluster, its specification or its status. -/
def writesCluster : StoreCall → Bool
  | replaceCluster _ | replaceStatus _ => true
  | _ => false

/-- Whether a call writes a workload. -/
def writesWorkload : StoreCall → Bool
  | create kind _ _ | replace kind _ _ => kind.isWorkload
  | _ => false

theorem isWrite_eq_false_of_isRead {request : StoreCall} (h : request.isRead = true) :
    request.isWrite = false := by
  cases request <;> simp_all [isRead, isWrite]

end StoreCall

/-- The writes of a pass, in order: none, one, or one of the two pairs of a derived object and the
cluster. -/
inductive WriteShape : List StoreCall → Prop where
  | none : WriteShape []
  | derived {write : StoreCall} (derived : write.writesDerived = true) : WriteShape [write]
  | cluster {write : StoreCall} (cluster : write.writesCluster = true) : WriteShape [write]
  | issue (ns : String) (certificate : Certificate) (cluster : Interconnect) :
    WriteShape [.create .certificate ns certificate, .replaceCluster cluster]
  | record {write : StoreCall} (workload : write.writesWorkload = true) (cluster : Interconnect) :
    WriteShape [write, .replaceStatus cluster]

theorem StoreCall.writesDerived_of_writesWorkload {write : StoreCall}
    (h : write.writesWorkload = true) : write.writesDerived = true := by
  cases write with
  | create kind ns object | replace kind ns object =>
      refine decide_eq_true fun hkind => ?_
      subst hkind
      cases h
  | _ => cases h

/-- A run that is cut short has a shape as well. -/
theorem WriteShape.of_initial {writes longer : List StoreCall} (h : WriteShape longer)
    (hinitial : writes <+: longer) : WriteShape writes := by
  have hone {first second : StoreCall} (hfirst : WriteShape [first])
      (hboth : WriteShape [first, second]) (hinitial : writes <+: [first, second]) :
      WriteShape writes := by
    rcases List.prefix_cons_iff.mp hinitial with rfl | ⟨rest, rfl, hrest⟩
    · exact .none
    · rcases List.prefix_cons_iff.mp hrest with rfl | ⟨last, rfl, hlast⟩
      · exact hfirst
      · rw [List.prefix_nil.mp hlast]
        exact hboth
  have hsingle {write : StoreCall} (hwrite : WriteShape [write]) (hinitial : writes <+: [write]) :
      WriteShape writes := by
    rcases List.prefix_cons_iff.mp hinitial with rfl | ⟨rest, rfl, hrest⟩
    · exact .none
    · rw [List.prefix_nil.mp hrest]
      exact hwrite
  cases h with
  | none =>
      rw [List.prefix_nil.mp hinitial]
      exact .none
  | derived derived => exact hsingle (.derived derived) hinitial
  | cluster cluster => exact hsingle (.cluster cluster) hinitial
  | issue ns certificate cluster =>
      exact hone (.derived rfl) (.issue ns certificate cluster) hinitial
  | record workload cluster =>
      have hderived := StoreCall.writesDerived_of_writesWorkload workload
      exact hone (.derived hderived) (.record workload cluster) hinitial

variable {σ : Type}

/-- An outcome says what the calls of a pass were, apart from reads: `created` that an object was
created which the read just before had found absent, `updated` that an object was replaced which a
read before had found, under its name and version. -/
def Outcome.Describes (outcome : Outcome) (runner : Runner σ) (ns : String)
    (trace : List (σ × StoreCall)) : Prop :=
  let effects := (trace.map Prod.snd).filter fun request => !request.isRead
  match outcome with
  | idle => effects = []
  | blocked _ => effects = [] ∨
    ∃ cluster notice, effects = [.replaceStatus cluster, .publish cluster notice]
  | statusUpdated => ∃ cluster, effects = [.replaceStatus cluster]
  | specUpdated => ∃ cluster, effects = [.replaceCluster cluster]
  | created kind name => ∃ front state state' object rest,
    trace = front ++ (state, .get kind ns name) :: (state', .create kind ns object) :: rest ∧
      (∀ entry ∈ front, entry.2.isRead = true) ∧
      (runner.call (.get kind ns name) state).1 = .ok none ∧
      kind.nameOf object = name
  | updated kind name => ∃ front state object rest,
    trace = front ++ (state, .replace kind ns object) :: rest ∧
      (∀ entry ∈ front, entry.2.isRead = true) ∧
      ∃ state' live, (state', .get kind ns name) ∈ front ∧
        (runner.call (.get kind ns name) state').1 = .ok (some live) ∧
        kind.nameOf object = kind.nameOf live ∧ kind.version? object = kind.version? live

namespace Pass.Plan

open Program

variable {pass : Pass} {known : List Exchange} {moves : List Move} {outcome : Outcome}

theorem writeShape (h : pass.Plan known moves outcome) :
    WriteShape ((moves.map Move.request).filter StoreCall.isWrite) := by
  cases h with
  | idle | blocked => exact .none
  | block | restate | persist => exact .cluster rfl
  | create derived | update derived => exact .derived (decide_eq_true derived)
  | issue => exact .issue _ _ _
  | deploy workload => cases workload <;> exact .record rfl _
  | refresh workload => cases workload <;> exact .derived rfl
  | upgrade workload => cases workload <;> exact .record rfl _
  | resize => exact .record rfl _

variable {runner : Runner σ} {answers : List (Answered runner)} {calls : List (σ × StoreCall)}

theorem isRead_of_mem_answers : ∀ entry ∈ answers.map Answered.entry, entry.2.isRead = true := by
  rw [List.forall_mem_map]
  exact fun read _ => read.reads

theorem filter_answers {keep : StoreCall → Bool}
    (h : ∀ request, StoreCall.isRead request = true → keep request = false) :
    ((answers.map Answered.entry).map Prod.snd).filter keep = [] := by
  simp only [List.map_map, List.filter_eq_nil_iff, List.forall_mem_map]
  intro read _
  exact ne_true_of_eq_false (h _ read.reads)

/-- The reads end with one that got a certain answer. -/
theorem exists_answers_concat {request : StoreCall} {reply : request.Reply}
    (h : answers.map (·.toExchange) = known ++ [⟨request, reply⟩]) :
    ∃ front state, answers.map Answered.entry = front ++ [(state, request)] ∧
      (∀ entry ∈ front, entry.2.isRead = true) ∧
      (runner.call request state).1 = .ok reply := by
  obtain ⟨front, last, rfl, hfront, hlast⟩ := List.map_eq_append_iff.mp h
  obtain ⟨read, rfl, hread⟩ := List.map_eq_singleton_iff.mp hlast
  obtain ⟨⟨request', reply'⟩, state, reads, answer⟩ := read
  cases hread
  exact ⟨front.map Answered.entry, state, by simp [Answered.entry], isRead_of_mem_answers, answer⟩

section changes

variable {ns name : String} {kind : Kind} {object : kind.Object} {rest : List StoreCall}

/-- A creation after a read that found nothing. -/
theorem describes_created
    (hknown : answers.map (·.toExchange) =
      known ++ [⟨.get kind ns (kind.nameOf object), none⟩])
    (hcalls : calls.map Prod.snd = .create kind ns object :: rest) :
    (Outcome.created kind (kind.nameOf object)).Describes runner ns
      (answers.map Answered.entry ++ calls) := by
  obtain ⟨front, state, hanswers, hreads, hanswer⟩ := exists_answers_concat hknown
  obtain ⟨⟨state', request⟩, calls, rfl, rfl, -⟩ := List.map_eq_cons_iff.mp hcalls
  exact ⟨front, state, state', object, calls, by simp [hanswers], hreads, hanswer, rfl⟩

/-- A replacement after a read that found an object under the same name and version. -/
theorem describes_updated {live : kind.Object}
    (hknown : answers.map (·.toExchange) = known ++ [⟨.get kind ns name, some live⟩])
    (hcalls : calls.map Prod.snd = .replace kind ns object :: rest)
    (hname : kind.nameOf object = kind.nameOf live)
    (hversion : kind.version? object = kind.version? live) :
    (Outcome.updated kind name).Describes runner ns (answers.map Answered.entry ++ calls) := by
  obtain ⟨front, state, hanswers, hreads, hanswer⟩ := exists_answers_concat hknown
  obtain ⟨⟨state', request⟩, calls, rfl, rfl, -⟩ := List.map_eq_cons_iff.mp hcalls
  exact ⟨_, state', object, calls, rfl, isRead_of_mem_answers, state, live, by simp [hanswers],
    hanswer, hname, hversion⟩

end changes

/-- A plan that was carried out to its end has the outcome that describes it. -/
theorem describes (h : pass.Plan known moves outcome)
    (hknown : answers.map (·.toExchange) = known)
    (hcalls : calls.map Prod.snd = moves.map Move.request) :
    outcome.Describes runner pass.ns (answers.map Answered.entry ++ calls) := by
  have heffects : ((answers.map Answered.entry ++ calls).map Prod.snd).filter
      (fun request => !request.isRead) =
        (moves.map Move.request).filter fun request => !request.isRead := by
    rw [List.map_append, List.filter_append, filter_answers (by simp), List.nil_append, hcalls]
  cases h with
  | idle => exact heffects
  | blocked => exact .inl heffects
  | block => exact .inr ⟨_, _, heffects⟩
  | restate => exact ⟨_, heffects⟩
  | persist => exact ⟨_, heffects⟩
  | create | issue | deploy => exact describes_created hknown hcalls
  | update | refresh | upgrade =>
      exact describes_updated hknown hcalls (Kind.nameOf_updated ..) (Kind.version?_updated ..)
  | resize =>
      exact describes_updated hknown hcalls (pass.nameOf_resized _) (pass.version?_resized _)

end Pass.Plan

namespace Pass

open Program

/-- The course of a pass over any store. -/
theorem course_program (pass : Pass) (runner : Runner σ) (state : σ) :
    Course pass.Plan [] pass.program runner (fun _ => True) state :=
  (decides_program pass).course (fun _ _ _ _ => trivial) trivial

theorem writeShape_program (pass : Pass) (runner : Runner σ) (state : σ) :
    WriteShape (((pass.program.trace runner state).map Prod.snd).filter StoreCall.isWrite) := by
  cases pass.course_program runner state with
  | stopped keeps stops fails after reads =>
      have hnone : ((pass.program.trace runner state).map Prod.snd).filter StoreCall.isWrite =
          [] := by
        rw [List.filter_eq_nil_iff, List.forall_mem_map]
        exact fun entry hentry =>
          ne_true_of_eq_false (StoreCall.isWrite_eq_false_of_isRead (reads entry hentry))
      rw [hnone]
      exact .none
  | @decided answers after moves outcome keeps kept planned run trace =>
      have hwrites := (trace_script_initial runner outcome moves after).filter
        StoreCall.isWrite
      rw [trace, List.map_append, List.filter_append,
        Plan.filter_answers fun _ => StoreCall.isWrite_eq_false_of_isRead]
      exact planned.writeShape.of_initial hwrites

theorem describes_program (pass : Pass) {runner : Runner σ} {state : σ} {outcome : Outcome}
    (h : (pass.program.run runner state).1 = .ok outcome) :
    outcome.Describes runner pass.ns (pass.program.trace runner state) := by
  cases pass.course_program runner state with
  | stopped keeps stops fails after reads =>
      rw [fails] at h
      cases h
  | decided answers keeps kept planned run trace =>
      rw [run] at h
      obtain ⟨rfl, hcalls⟩ := trace_script_of_ok h
      rw [trace]
      exact planned.describes rfl hcalls

end Pass

/-- Whatever a store answers, the writes of a pass have one of few shapes, no call follows one that
failed, and an outcome describes the calls that led to it. -/
theorem reconcile_shape (settings : Settings) (now : Timestamp) (cluster : Interconnect)
    (runner : Runner σ) (state : σ) :
    let trace := (reconcile settings now cluster).trace runner state
    WriteShape ((trace.map Prod.snd).filter StoreCall.isWrite) ∧
      (∀ front entry next rest, trace = front ++ entry :: next :: rest →
        ∃ reply, (runner.call entry.2 entry.1).1 = .ok reply) ∧
      ∀ outcome, ((reconcile settings now cluster).run runner state).1 = .ok outcome →
        (∀ entry ∈ trace, ∃ reply, (runner.call entry.2 entry.1).1 = .ok reply) ∧
          outcome.Describes runner cluster.space trace := by
  have hshape : WriteShape
      ((((reconcile settings now cluster).trace runner state).map Prod.snd).filter
        StoreCall.isWrite) := by
    unfold reconcile
    split
    · exact .none
    · exact Pass.writeShape_program _ runner state
  refine ⟨hshape, fun front entry next rest => Program.ok_of_trace_eq, fun outcome hrun =>
    ⟨Program.ok_of_run_ok hrun, ?_⟩⟩
  unfold reconcile at hrun ⊢
  split at hrun
  next => cases hrun
  next ns hns =>
    have hspace : cluster.space = ns := by
      rw [Interconnect.space, ObjectMeta.anySpace, hns]
      rfl
    rw [hspace]
    exact Pass.describes_program _ hrun

/-- A pass over a store in which routers have their access and nothing else exists. -/
theorem configMap_created_once_absent :
    let trace := (reconcile {} default securedCluster).trace (accessOnly securedCluster) ()
    ((reconcile {} default securedCluster).run (accessOnly securedCluster) ()).1 =
        .ok (.created .configMap "amq") ∧
      WriteShape ((trace.map Prod.snd).filter StoreCall.isWrite) ∧
      (Outcome.created .configMap "amq").Describes (accessOnly securedCluster) "msg" trace := by
  have hrun : ((reconcile {} default securedCluster).run (accessOnly securedCluster) ()).1 =
      .ok (.created .configMap "amq") := rfl
  obtain ⟨hwrites, -, houtcome⟩ :=
    reconcile_shape {} default securedCluster (accessOnly securedCluster) ()
  exact ⟨hrun, hwrites, (houtcome _ hrun).2⟩

end RouterOperator
