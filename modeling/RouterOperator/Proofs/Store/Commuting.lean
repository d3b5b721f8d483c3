import RouterOperator.Proofs.Erasure
import RouterOperator.Proofs.Keys

/-!
# Scripts over stores that agree

What a call answers and what it makes of an object depends on that object alone, up to the version
that the object is given. So a script that writes no object twice does the same over two stores that
agree on the objects that it writes, and it leaves every other object as it is.
-/

namespace RouterOperator

@[simp] theorem Kind.withVersion_withVersion (kind : Kind) (object : kind.Object)
    (version later : String) :
    kind.withVersion (kind.withVersion object version) later = kind.withVersion object later := by
  cases kind <;> rfl

/-- The keys that a script writes under. -/
def targets (moves : List Move) : List ObjectKey := moves.filterMap fun move => move.request.target?

namespace MemoryStore

open Program

variable {store other : MemoryStore} {request : StoreCall} {key : ObjectKey} {moves : List Move}
  {α : Type} {result : α}

/-- Two stores hold the same under a key, up to its version. -/
def Alike (store other : MemoryStore) (key : ObjectKey) : Prop :=
  (store.object? key).map (key.kind.withVersion · "") =
    (other.object? key).map (key.kind.withVersion · "")

theorem alike_of_object?_eq (h : store.object? key = other.object? key) :
    store.Alike other key := by
  rw [Alike, h]

theorem Alike.symm (h : store.Alike other key) : other.Alike store key := Eq.symm h

theorem alike_change (verb : Verb) (key : ObjectKey) (object : key.kind.Object) :
    (store.change verb key object).Alike (other.change verb key object) key := by
  simp [Alike]

/-- A write whose effect depends on one object alone. -/
theorem write_alike {effect : MemoryStore → Except Error MemoryStore}
    (hstore : store.failure = none) (hother : other.failure = none) (h : store.Alike other key)
    (heffect : (∃ error, effect store = .error error ∧ effect other = .error error) ∨
      ∃ after after', effect store = .ok after ∧ effect other = .ok after' ∧
        after.Alike after' key) :
    (store.write effect).1 = (other.write effect).1 ∧
      (store.write effect).2.Alike (other.write effect).2 key := by
  rcases heffect with ⟨error, hfirst, hsecond⟩ | ⟨after, after', hfirst, hsecond, halike⟩
  · rw [write_of_error hstore hfirst, write_of_error hother hsecond]
    exact ⟨rfl, h⟩
  · rw [write_of_ok hstore hfirst, write_of_ok hother hsecond]
    exact ⟨rfl, halike⟩

theorem current?_congr (h : store.object? key = other.object? key) (incoming : key.kind.Object) :
    store.current? key incoming = other.current? key incoming := by
  rw [current?, current?, h]

/-- A replacement writes what follows from the stored object, if its version is the given one. -/
theorem write_current_alike (hstore : store.failure = none) (hother : other.failure = none)
    (h : store.object? key = other.object? key) (incoming : key.kind.Object) (verb : Verb)
    (next : key.kind.Object → key.kind.Object) :
    let effect (given : MemoryStore) : Except Error MemoryStore := do
      let stored ← given.current? key incoming
      return given.change verb key (next stored)
    (store.write effect).1 = (other.write effect).1 ∧
      (store.write effect).2.Alike (other.write effect).2 key := by
  refine write_alike hstore hother (alike_of_object?_eq h) ?_
  rw [← current?_congr h]
  cases store.current? key incoming with
  | error error => exact .inl ⟨error, rfl, rfl⟩
  | ok stored => exact .inr ⟨_, _, rfl, rfl, alike_change verb key _⟩

/-- A call does the same over stores that hold the same object for it. -/
theorem call_alike (hstore : store.failure = none) (hother : other.failure = none)
    (htarget : request.target? = some key) (h : store.object? key = other.object? key) :
    (store.call request).1 = (other.call request).1 ∧
      (store.call request).2.Alike (other.call request).2 key := by
  cases request with
  | get | listPods | publish => cases htarget
  | create kind ns object =>
      obtain rfl := Option.some.inj htarget
      refine write_alike hstore hother (alike_of_object?_eq h) ?_
      dsimp only
      rw [← h]
      split
      · exact .inr ⟨_, _, rfl, rfl, alike_of_object?_eq h⟩
      · exact .inr ⟨_, _, rfl, rfl, alike_change .create (.of kind ns object) object⟩
  | replace kind ns object =>
      obtain rfl := Option.some.inj htarget
      exact write_current_alike hstore hother h object .replace fun _ => object
  | replaceCluster cluster =>
      obtain rfl := Option.some.inj htarget
      exact write_current_alike hstore hother h cluster .replace fun stored =>
        { cluster with status := stored.status }
  | replaceStatus cluster =>
      obtain rfl := Option.some.inj htarget
      exact write_current_alike hstore hother h cluster .status fun stored =>
        { stored with status := cluster.status }

/-- A call that writes no object is answered. -/
theorem exists_reply_of_target?_eq_none (h : request.target? = none) (store : MemoryStore) :
    ∃ reply, (store.call request).1 = .ok reply := by
  cases request with
  | get | listPods | publish => exact ⟨_, rfl⟩
  | _ => cases h

theorem targets_cons_of_none {move : Move} (h : move.request.target? = none) :
    targets (move :: moves) = targets moves := List.filterMap_cons_none h

theorem targets_cons_of_some {move : Move} (h : move.request.target? = some key) :
    targets (move :: moves) = key :: targets moves := List.filterMap_cons_some h

/-- Nothing but its targets is changed by a script. -/
theorem object?_run_script_of_not_mem (h : key ∉ targets moves) :
    ((script result moves).run runner store).2.object? key = store.object? key := by
  refine Classical.byContradiction fun hchanged => ?_
  let view : MemoryStore → Option key.kind.Object := fun state => state.object? key
  obtain ⟨entry, hentry, hne⟩ := exists_mem_trace_of_run_ne view hchanged
  obtain ⟨move, hmove, hrequest⟩ := exists_move_of_mem_trace hentry
  refine hne (object?_call_of_ne entry.1 fun htarget => h ?_)
  exact List.mem_filterMap.mpr ⟨move, hmove, hrequest ▸ htarget⟩

/-- What a call does not write stays the same in stores that agree on it. -/
theorem object?_call_congr (hne : request.target? ≠ some key)
    (h : store.object? key = other.object? key) :
    (store.call request).2.object? key = (other.call request).2.object? key := by
  rw [object?_call_of_ne store hne, object?_call_of_ne other hne, h]

/-- A script that writes no object twice does the same over two stores that agree on what it
writes. -/
theorem run_script_alike (hstore : store.failure = none) (hother : other.failure = none)
    (once : (targets moves).Nodup)
    (h : ∀ key ∈ targets moves, store.object? key = other.object? key) :
    ((script result moves).run runner store).1 = ((script result moves).run runner other).1 ∧
      ∀ key ∈ targets moves, ((script result moves).run runner store).2.Alike
        ((script result moves).run runner other).2 key := by
  induction moves generalizing store other with
  | nil => exact ⟨rfl, fun key hkey => nomatch hkey⟩
  | cons move rest ih =>
      have hafter := call_failure_eq_none hstore move.request
      have hafter' := call_failure_eq_none hother move.request
      cases htarget : move.request.target? with
      | none =>
          have hne (key : ObjectKey) : move.request.target? ≠ some key := by
            rw [htarget]
            exact Option.some_ne_none key |>.symm
          rw [targets_cons_of_none htarget] at once h ⊢
          have hrest := ih hafter hafter' once fun key hkey =>
            object?_call_congr (hne key) (h key hkey)
          obtain ⟨reply, hreply⟩ := exists_reply_of_target?_eq_none htarget store
          obtain ⟨reply', hreply'⟩ := exists_reply_of_target?_eq_none htarget other
          rw [run_script_cons (Prod.ext hreply rfl), run_script_cons (Prod.ext hreply' rfl)]
          exact hrest
      | some written =>
          rw [targets_cons_of_some htarget] at once h ⊢
          obtain ⟨hwritten, honce⟩ := List.nodup_cons.mp once
          obtain ⟨hagree, hagrees⟩ := List.forall_mem_cons.mp h
          obtain ⟨hanswer, halike⟩ := call_alike hstore hother htarget hagree
          have hkept (key : ObjectKey) (hkey : key ∈ targets rest) :
              (store.call move.request).2.object? key =
                (other.call move.request).2.object? key := by
            refine object?_call_congr ?_ (hagrees key hkey)
            rw [htarget]
            rintro ⟨⟩
            exact hwritten hkey
          cases hreply : (store.call move.request).1 with
          | error error =>
              rw [run_script_of_error (Prod.ext hreply rfl),
                run_script_of_error (Prod.ext (hanswer.symm.trans hreply) rfl)]
              exact ⟨rfl, List.forall_mem_cons.mpr
                ⟨halike, fun key hkey => alike_of_object?_eq (hkept key hkey)⟩⟩
          | ok reply =>
              rw [run_script_cons (Prod.ext hreply rfl),
                run_script_cons (Prod.ext (hanswer.symm.trans hreply) rfl)]
              obtain ⟨hresult, hrest⟩ := ih hafter hafter' honce hkept
              refine ⟨hresult, List.forall_mem_cons.mpr ⟨?_, hrest⟩⟩
              rw [Alike, object?_run_script_of_not_mem hwritten,
                object?_run_script_of_not_mem hwritten]
              exact halike

/-- A program that reads and decides comes to one script over two stores that answer its reads
alike. -/
theorem exists_script {plans : List Exchange → List Move → α → Prop} {known : List Exchange}
    {program : Program α} {allowed : StoreCall → Prop} {promised : α → Prop}
    (decides : Decides plans known program) (meets : program.Meets allowed promised)
    (agree : ∀ request, StoreCall.isRead request = true → allowed request →
      (store.call request).1 = (other.call request).1)
    (hknown : ∀ exchange ∈ known, store.Answers exchange) :
    ∃ later moves result, plans later moves result ∧
      (∀ exchange ∈ later, store.Answers exchange) ∧
      program.run runner store = (script result moves).run runner store ∧
      program.run runner other = (script result moves).run runner other := by
  induction decides with
  | script planned => exact ⟨_, _, _, planned, hknown, rfl, rfl⟩
  | check rest ih => exact ih meets hknown
  | @read known request next reads rest ih =>
      obtain ⟨reply, hreply⟩ := call_of_isRead reads store
      obtain ⟨reply', hreply'⟩ := call_of_isRead reads other
      have hsame : reply' = reply := by
        have hanswers := agree request reads meets.1
        rw [hreply, hreply'] at hanswers
        exact (Except.ok.inj hanswers).symm
      subst hsame
      have hanswers : ∀ exchange ∈ known ++ [⟨request, reply'⟩], store.Answers exchange := by
        rw [List.forall_mem_append]
        exact ⟨hknown, by simpa [Answers] using congrArg Prod.fst hreply⟩
      obtain ⟨later, moves, result, planned, hlater, hrun, hrun'⟩ :=
        ih reply' (meets.2 reply') hanswers
      exact ⟨later, moves, result, planned, hlater, (run_call_of_ok hreply next).trans hrun,
        (run_call_of_ok hreply' next).trans hrun'⟩

end MemoryStore

end RouterOperator
