import RouterOperator.Proofs.Store.Strikes

/-!
# Milestones in a store

A milestone of a cluster shows between two stores: a workload has come into being, or its deployment
has got another size. Which milestones a change reaches is read off the object that it writes, and
so is whether the conditions that the status has got account for them. A script that writes an
object and then the cluster accounts for the milestone of the first write exactly if the second one
takes effect.
-/

namespace RouterOperator

/-- Whether a milestone is reached by a change of the workload that is not an upgrade. -/
def ConditionType.concernsWorkload : ConditionType → Bool
  | deployed | scalingUp | scalingDown => true
  | provisioning | upgrading => false

namespace MemoryStore

/-- Between two stores a milestone of a cluster was reached: a workload has come into being, or the
number of replicas of its deployment has changed. -/
def Reaches (before after : MemoryStore) (ns name : String) : ConditionType → Prop
  | .deployed => ∃ kind : Kind, kind.isWorkload = true ∧
    before.object? ⟨kind, ns, name⟩ = none ∧ (after.object? ⟨kind, ns, name⟩).isSome
  | .scalingUp => ∃ old new : Deployment, before.object? ⟨.deployment, ns, name⟩ = some old ∧
    after.object? ⟨.deployment, ns, name⟩ = some new ∧ old.replicaCount < new.replicaCount
  | .scalingDown => ∃ old new : Deployment, before.object? ⟨.deployment, ns, name⟩ = some old ∧
    after.object? ⟨.deployment, ns, name⟩ = some new ∧ new.replicaCount < old.replicaCount
  | .provisioning | .upgrading => False

/-- Between two stores a few conditions were added to the history of a cluster. -/
structure Appends (before after : MemoryStore) (ns name : String) (added : List Condition) :
    Prop where
  few : added.length ≤ 2
  history : ∃ earlier later, before.cluster? ns name = some earlier ∧
    after.cluster? ns name = some later ∧ earlier.statusOrNew.Adds later.statusOrNew added

/-- Between two stores the history of a cluster has got a condition for every milestone that was
reached and can be recorded, and for no other one. -/
def Accounts (before after : MemoryStore) (ns name : String) (recordable : Prop) : Prop :=
  ∃ added, before.Appends after ns name added ∧
    ∀ type : ConditionType, type.concernsWorkload = true →
      ((∃ condition ∈ added, condition.type = type) ↔
        before.Reaches after ns name type ∧ recordable)

/-- Between two stores no milestone was reached. -/
def Quiet (before after : MemoryStore) (ns name : String) : Prop :=
  ∀ type, ¬ before.Reaches after ns name type

section accounts

variable {before after : MemoryStore} {ns name : String} {added : List Condition}
  {recordable : Prop}

/-- Where no workload comes into being and a deployment keeps its size, no milestone is reached. -/
theorem quiet_of_kept
    (hpresent : ∀ kind : Kind, kind.isWorkload = true →
      before.object? ⟨kind, ns, name⟩ = none → after.object? ⟨kind, ns, name⟩ = none)
    (hsized : ∀ old new : Deployment, before.object? ⟨.deployment, ns, name⟩ = some old →
      after.object? ⟨.deployment, ns, name⟩ = some new → old.replicaCount = new.replicaCount) :
    before.Quiet after ns name := by
  intro type
  cases type with
  | provisioning | upgrading => exact id
  | deployed =>
      rintro ⟨kind, hkind, habsent, hcreated⟩
      rw [hpresent kind hkind habsent] at hcreated
      cases hcreated
  | scalingUp | scalingDown =>
      rintro ⟨old, new, hold, hnew, hlt⟩
      rw [hsized old new hold hnew] at hlt
      exact Int32.lt_irrefl hlt

theorem quiet_of_same (h : ∀ kind : Kind, kind.isWorkload = true →
    after.object? ⟨kind, ns, name⟩ = before.object? ⟨kind, ns, name⟩) :
    before.Quiet after ns name := by
  refine quiet_of_kept (fun kind hkind habsent => (h kind hkind).trans habsent) ?_
  intro old new hold hnew
  rw [h .deployment rfl, hold] at hnew
  rw [Option.some.inj hnew]

/-- Objects of other kinds have no part in milestones. -/
theorem reaches_congr {other : MemoryStore} (h : other.SameServing after) (type : ConditionType) :
    before.Reaches other ns name type ↔ before.Reaches after ns name type := by
  have hkind (kind : Kind) (hkind : kind.isWorkload = true) :
      other.object? ⟨kind, ns, name⟩ = after.object? ⟨kind, ns, name⟩ := by
    refine h _ ?_
    rintro rfl
    cases hkind
  cases type with
  | provisioning | upgrading => exact Iff.rfl
  | deployed =>
      refine exists_congr fun kind => and_congr_right fun hworkload => ?_
      rw [hkind kind hworkload]
  | scalingUp | scalingDown =>
      unfold Reaches
      dsimp only
      rw [hkind .deployment rfl]

theorem Quiet.congr {other : MemoryStore} (h : before.Quiet after ns name)
    (hsame : other.SameServing after) : before.Quiet other ns name :=
  fun type hreaches => h type ((reaches_congr hsame type).mp hreaches)

theorem Appends.congr {other : MemoryStore} (h : before.Appends after ns name added)
    (hsame : before.cluster? ns name = other.cluster? ns name) :
    other.Appends after ns name added := by
  obtain ⟨earlier, later, hearlier, hlater, hadds⟩ := h.history
  exact ⟨h.few, earlier, later, hsame.symm.trans hearlier, hlater, hadds⟩

theorem appends_nil {cluster : Interconnect} (found : before.cluster? ns name = some cluster)
    (hsame : after.cluster? ns name = before.cluster? ns name) :
    before.Appends after ns name [] :=
  ⟨Nat.zero_le _, cluster, cluster, found, hsame.trans found, rfl⟩

/-- Where no milestone is reached, none must be recorded. -/
theorem Quiet.accounts (h : before.Quiet after ns name)
    (happends : before.Appends after ns name added)
    (hplain : ∀ condition ∈ added, condition.type.concernsWorkload = false) :
    before.Accounts after ns name recordable := by
  refine ⟨added, happends, fun type htype => ⟨?_, fun hreached => ?_⟩⟩
  · rintro ⟨condition, hcondition, rfl⟩
    rw [hplain condition hcondition] at htype
    cases htype
  · exact absurd hreached.1 (h type)

/-- Where one milestone is reached, a condition for it stands before those for upgrades, if it can
be recorded. -/
theorem accounts_of_reached {condition : Condition} {upgrades : List Condition}
    (hreached : ∀ type : ConditionType, type.concernsWorkload = true →
      (before.Reaches after ns name type ↔ type = condition.type))
    (hupgrades : ∀ condition ∈ upgrades, condition.type = .upgrading)
    (hrecord : (recordable ∧ before.Appends after ns name (condition :: upgrades)) ∨
      (¬ recordable ∧ before.Appends after ns name [])) :
    before.Accounts after ns name recordable := by
  rcases hrecord with ⟨hrecordable, happends⟩ | ⟨hlost, happends⟩
  · refine ⟨_, happends, fun type htype => ?_⟩
    rw [hreached type htype, and_iff_left hrecordable]
    refine ⟨?_, fun heq => ⟨condition, List.mem_cons_self, heq.symm⟩⟩
    rintro ⟨other, hmem, rfl⟩
    rcases List.mem_cons.mp hmem with rfl | hother
    · rfl
    · rw [hupgrades other hother] at htype
      cases htype
  · refine ⟨[], happends, fun type htype => ?_⟩
    simp [hlost]

end accounts

section changes

variable {store : MemoryStore} {verb : Verb} {key : ObjectKey} {object : key.kind.Object}
  {ns name : String} {type : ConditionType}

/-- An object that is no workload reaches no milestone. -/
theorem quiet_change (other : key.kind.isWorkload = false) :
    store.Quiet (store.change verb key object) ns name := by
  refine quiet_of_same fun kind hkind => object?_change_of_ne ?_ store verb object
  rintro rfl
  exact nomatch other.symm.trans hkind

/-- A workload that is created is deployed, and no other milestone is reached. -/
theorem reaches_create (hkind : key.kind.isWorkload = true) (absent : store.object? key = none)
    (htype : type.concernsWorkload = true) :
    store.Reaches (store.change verb key object) key.ns key.name type ↔ type = .deployed := by
  -- a deployment that was there before is none that is created now
  have hsize {old new : Deployment}
      (hold : store.object? ⟨.deployment, key.ns, key.name⟩ = some old)
      (hnew : (store.change verb key object).object? ⟨.deployment, key.ns, key.name⟩ = some new) :
      old = new := by
    have hne : (⟨.deployment, key.ns, key.name⟩ : ObjectKey) ≠ key := by
      intro hkey
      have hnone (other : ObjectKey) (heq : other = key) : store.object? other = none :=
        heq ▸ absent
      exact nomatch hold.symm.trans (hnone _ hkey)
    rw [object?_change_of_ne hne, hold] at hnew
    exact Option.some.inj hnew
  cases type with
  | provisioning | upgrading => cases htype
  | deployed =>
      refine ⟨fun _ => rfl, fun _ => ⟨key.kind, hkind, absent, ?_⟩⟩
      rw [object?_change, object?_put_self]
      rfl
  | scalingUp | scalingDown =>
      refine ⟨?_, fun h => nomatch h⟩
      rintro ⟨old, new, hold, hnew, hlt⟩
      rw [hsize hold hnew] at hlt
      exact absurd hlt Int32.lt_irrefl

/-- An object that is replaced was not absent before, and no other one was put in place. -/
theorem object?_change_eq_none {live : key.kind.Object} (found : store.object? key = some live)
    {other : ObjectKey} (absent : store.object? other = none) :
    (store.change verb key object).object? other = none := by
  rw [object?_change_of_ne, absent]
  rintro rfl
  exact nomatch absent.symm.trans found

/-- A daemon set has no size. -/
theorem quiet_replace_daemonSet {live object : DaemonSet}
    (found : store.object? ⟨.daemonSet, ns, name⟩ = some live) :
    store.Quiet (store.change verb ⟨.daemonSet, ns, name⟩ object) ns name := by
  refine quiet_of_kept (fun kind _ => object?_change_eq_none found) fun old new hold hnew => ?_
  rw [object?_change_of_ne (by simp), hold] at hnew
  rw [Option.some.inj hnew]

/-- A deployment that is replaced by one of another size is scaled. -/
theorem reaches_replace_deployment {live object : Deployment}
    (found : store.object? ⟨.deployment, ns, name⟩ = some live) :
    store.Reaches (store.change verb ⟨.deployment, ns, name⟩ object) ns name type ↔
      (type = .scalingUp ∧ live.replicaCount < object.replicaCount) ∨
        (type = .scalingDown ∧ object.replicaCount < live.replicaCount) := by
  have hput := object?_put_self store ⟨.deployment, ns, name⟩ object
  have hsizes (related : Int32 → Int32 → Prop) :
      (∃ old new : Deployment, store.object? ⟨.deployment, ns, name⟩ = some old ∧
        (store.change verb ⟨.deployment, ns, name⟩ object).object? ⟨.deployment, ns, name⟩ =
          some new ∧ related old.replicaCount new.replicaCount) ↔
      related live.replicaCount object.replicaCount := by
    constructor
    · rintro ⟨old, new, hold, hnew, hrelated⟩
      obtain rfl : live = old := Option.some.inj (found.symm.trans hold)
      obtain rfl := Option.some.inj (hput.symm.trans hnew)
      exact hrelated
    · exact fun hrelated => ⟨live, _, found, hput, hrelated⟩
  cases type with
  | provisioning | upgrading => simp [Reaches]
  | deployed =>
      refine ⟨?_, by simp⟩
      rintro ⟨kind, -, habsent, hcreated⟩
      rw [object?_change_eq_none found habsent] at hcreated
      cases hcreated
  | scalingUp => exact (hsizes (· < ·)).trans (by simp)
  | scalingDown => exact (hsizes fun old new => new < old).trans (by simp)

end changes

end MemoryStore

namespace Simulation

open Program MemoryStore

/-- A milestone that a pass reaches can be recorded: the store still holds the cluster that the pass
has read, and no failure is armed for the second write. -/
def CanRecord (simulation : Simulation) (snapshot : Interconnect) : Prop :=
  simulation.Holding snapshot ∧ ∀ failure, simulation.armed ≠ some ⟨1, failure⟩

section plans

variable {simulation next : Simulation} {seen : List Interconnect} {snapshot : Interconnect}
  {pass : Pass} {after : MemoryStore}

theorem Sound.present (h : simulation.Sound seen) (read : snapshot ∈ seen) :
    ∃ cluster, simulation.store.cluster? snapshot.space snapshot.name = some cluster :=
  Option.isSome_iff_exists.mp (h.recalls snapshot read).present

/-- Where the objects are as before there is nothing to account for. -/
theorem Sound.accounts_of_same (h : simulation.Sound seen) (read : snapshot ∈ seen)
    (hsame : ∀ key, after.object? key = simulation.store.object? key) {recordable : Prop} :
    simulation.store.Accounts after snapshot.space snapshot.name recordable := by
  obtain ⟨cluster, found⟩ := h.present read
  exact (quiet_of_same fun _ _ => hsame _).accounts (appends_nil found (hsame _)) (by simp)

/-- A write of the cluster appends what its status adds, or nothing. -/
theorem ClusterWrite.appends {rewritten : Interconnect} {before : Option String}
    {added : List Condition} (h : simulation.ClusterWrite snapshot rewritten before after)
    (sound : simulation.Sound seen) (read : snapshot ∈ seen) (hfew : added.length ≤ 2)
    (hadds : snapshot.statusOrNew.Adds rewritten.statusOrNew added) :
    after.SameServing simulation.store ∧
      ((simulation.Holding snapshot ∧ simulation.Spared ∧
          simulation.store.Appends after snapshot.space snapshot.name added) ∨
        ((before = none → ¬ (simulation.Holding snapshot ∧ simulation.Spared)) ∧
          simulation.store.Appends after snapshot.space snapshot.name [])) := by
  cases h with
  | lost same refused =>
      obtain ⟨cluster, found⟩ := sound.present read
      exact ⟨fun key _ => same key, .inr ⟨refused, appends_nil found (same _)⟩⟩
  | stored holding spared serving found =>
      exact ⟨serving, .inl ⟨holding, spared, hfew, snapshot, _, holding, found, hadds⟩⟩

/-- A pass that writes the cluster alone reaches no milestone. -/
theorem ClusterWrite.accounts {rewritten : Interconnect} {before : Option String}
    {added : List Condition} {recordable : Prop}
    (h : simulation.ClusterWrite snapshot rewritten before after)
    (sound : simulation.Sound seen) (read : snapshot ∈ seen) (hfew : added.length ≤ 2)
    (hadds : snapshot.statusOrNew.Adds rewritten.statusOrNew added)
    (hplain : ∀ condition ∈ added, condition.type.concernsWorkload = false) :
    simulation.store.Accounts after snapshot.space snapshot.name recordable := by
  obtain ⟨hserving, happends⟩ := h.appends sound read hfew hadds
  have hquiet : simulation.store.Quiet after snapshot.space snapshot.name := by
    refine quiet_of_same fun kind hkind => hserving _ ?_
    rintro rfl
    cases hkind
  rcases happends with ⟨-, -, happends⟩ | ⟨-, happends⟩
  · exact hquiet.accounts happends hplain
  · exact hquiet.accounts happends (by simp)

/-- A state of a pass that has written an object besides the cluster. -/
structure Follows (simulation : Simulation) (seen : List Interconnect) (snapshot : Interconnect)
    (written : MemoryStore) (next : Simulation) : Prop where
  sound : next.Sound seen
  store : next.store = written
  spared : next.Spared ↔ ∀ failure, simulation.armed ≠ some ⟨1, failure⟩
  holding : next.Holding snapshot ↔ simulation.Holding snapshot
  cluster : next.store.cluster? snapshot.space snapshot.name =
    simulation.store.cluster? snapshot.space snapshot.name

/-- A write of an object besides the cluster that is lost leaves nothing to account for. -/
theorem Sound.accounts_of_write (h : simulation.Sound seen) (read : snapshot ∈ seen)
    {key : ObjectKey} (derived : key.kind ≠ .interconnect) {object : key.kind.Object} {verb : Verb}
    {move : Move} {rest : List Move} (hplaced : move.request.IsPlaced)
    (hwrite : move.request.isWrite = true) {reply : move.request.Reply}
    (hcall : simulation.store.failure = none →
      simulation.store.call move.request = (.ok reply, simulation.store.change verb key object))
    {recordable : Prop} {outcome : Outcome}
    (hrest : ∀ next, simulation.Follows seen snapshot
        (simulation.store.change verb key object) next →
      simulation.store.Accounts ((script outcome rest).run runner next).2.store
        snapshot.space snapshot.name recordable) :
    simulation.store.Accounts ((script outcome (move :: rest)).run runner simulation).2.store
      snapshot.space snapshot.name recordable := by
  rcases run_script_write hwrite hcall with hsame | ⟨next, hnext, hrun, hstore, hspared, harmed⟩
  · exact h.accounts_of_same read hsame.object?
  · rw [hrun]
    have hcluster : next.store.cluster? snapshot.space snapshot.name =
        simulation.store.cluster? snapshot.space snapshot.name := by
      rw [hstore]
      exact cluster?_change_of_kind_ne derived verb object _ _
    have hfailure : next.store.failure = none := by
      rw [hstore]
      exact (spared_iff.mp hspared).1
    refine hrest next ⟨?_, hstore, spared_of_written hspared hfailure harmed, ?_, hcluster⟩
    · rw [hnext]
      exact h.call hplaced
    · unfold Holding
      rw [hcluster]

variable {kind : Kind} {ns name : String} {rest : List Move} {outcome : Outcome}
  {recordable : Prop} {before : Option String}

/-- An object that was not found is created, or nothing is to account for. -/
theorem Sound.accounts_of_create (h : simulation.Sound seen) (read : snapshot ∈ seen)
    (derived : kind ≠ .interconnect) {desired : kind.Object}
    (absent : simulation.store.Answers ⟨.get kind ns (kind.nameOf desired), none⟩)
    (hrest : ∀ next, simulation.Follows seen snapshot
        (simulation.store.change .create (.of kind ns desired) desired) next →
      simulation.store.Accounts ((script outcome rest).run runner next).2.store
        snapshot.space snapshot.name recordable) :
    simulation.store.Accounts
      ((script outcome (⟨before, .create kind ns desired⟩ :: rest)).run runner simulation).2.store
      snapshot.space snapshot.name recordable := by
  have hplaced : (StoreCall.create kind ns desired).IsPlaced := fun hkind => absurd hkind derived
  have hkind : (ObjectKey.of kind ns desired).kind ≠ .interconnect := derived
  exact h.accounts_of_write read hkind hplaced rfl
    (fun hnone => call_create_of_absent hnone (Except.ok.inj absent)) hrest

/-- An object that was found is replaced under its name and version, or nothing is to account
for. -/
theorem Sound.accounts_of_replace (h : simulation.Sound seen) (read : snapshot ∈ seen)
    (derived : kind ≠ .interconnect) {live object : kind.Object}
    (found : simulation.store.Answers ⟨.get kind ns name, some live⟩)
    (hname : kind.nameOf object = kind.nameOf live)
    (hversion : kind.version? object = kind.version? live)
    (hrest : ∀ next, simulation.Follows seen snapshot
        (simulation.store.change .replace ⟨kind, ns, name⟩ object) next →
      simulation.store.Accounts ((script outcome rest).run runner next).2.store
        snapshot.space snapshot.name recordable) :
    simulation.store.Accounts
      ((script outcome (⟨before, .replace kind ns object⟩ :: rest)).run runner simulation).2.store
      snapshot.space snapshot.name recordable := by
  have hplaced : (StoreCall.replace kind ns object).IsPlaced := fun hkind => absurd hkind derived
  have hkind : (⟨kind, ns, name⟩ : ObjectKey).kind ≠ .interconnect := derived
  exact h.accounts_of_write read hkind hplaced rfl
    (fun hnone => h.wellFormed.fits.call_replace hnone (Except.ok.inj found) hname hversion) hrest

variable {written : MemoryStore} {rewritten : Interconnect}

/-- Behind a write that reaches no milestone the cluster may be written. -/
theorem Follows.accounts_of_quiet (h : simulation.Follows seen snapshot written next)
    (read : snapshot ∈ seen)
    (hquiet : simulation.store.Quiet written snapshot.space snapshot.name)
    (hwrite : next.ClusterWrite snapshot rewritten before after) {added : List Condition}
    (hfew : added.length ≤ 2) (hadds : snapshot.statusOrNew.Adds rewritten.statusOrNew added)
    (hplain : ∀ condition ∈ added, condition.type.concernsWorkload = false) :
    simulation.store.Accounts after snapshot.space snapshot.name recordable := by
  obtain ⟨hserving, happends⟩ := hwrite.appends h.sound read hfew hadds
  rw [h.store] at hserving
  have hquiet := hquiet.congr hserving
  rcases happends with ⟨-, -, happends⟩ | ⟨-, happends⟩
  · exact hquiet.accounts (happends.congr h.cluster) hplain
  · exact hquiet.accounts (happends.congr h.cluster) (by simp)

/-- A write that reaches no milestone may end the pass. -/
theorem Follows.accounts_of_last (h : simulation.Follows seen snapshot written next)
    (read : snapshot ∈ seen)
    (hquiet : simulation.store.Quiet written snapshot.space snapshot.name) :
    simulation.store.Accounts next.store snapshot.space snapshot.name recordable := by
  obtain ⟨cluster, found⟩ := h.sound.present read
  rw [h.cluster] at found
  have happends := appends_nil found h.cluster
  rw [← h.store] at hquiet
  exact hquiet.accounts happends (by simp)

/-- Behind a write that reaches a milestone that is recorded, whatever the deadline. -/
theorem Follows.accounts_of_reached (h : simulation.Follows seen snapshot written next)
    (read : snapshot ∈ seen) {condition : Condition} {upgrades : List Condition}
    (hreached : ∀ type : ConditionType, type.concernsWorkload = true →
      (simulation.store.Reaches written snapshot.space snapshot.name type ↔
        type = condition.type))
    (hupgrades : ∀ condition ∈ upgrades, condition.type = .upgrading)
    (hwrite : next.ClusterWrite snapshot rewritten none after)
    (hfew : (condition :: upgrades).length ≤ 2)
    (hadds : snapshot.statusOrNew.Adds rewritten.statusOrNew (condition :: upgrades)) :
    simulation.store.Accounts after snapshot.space snapshot.name
      (simulation.CanRecord snapshot) := by
  obtain ⟨hserving, happends⟩ := hwrite.appends h.sound read hfew hadds
  rw [h.store] at hserving
  have hcan : simulation.CanRecord snapshot ↔ next.Holding snapshot ∧ next.Spared := by
    rw [CanRecord, h.holding, h.spared]
  have hreached (type : ConditionType) (htype : type.concernsWorkload = true) :
      simulation.store.Reaches after snapshot.space snapshot.name type ↔ type = condition.type :=
    (reaches_congr hserving type).trans (hreached type htype)
  refine MemoryStore.accounts_of_reached hreached hupgrades ?_
  rcases happends with ⟨hholding, hspared, happends⟩ | ⟨hlost, happends⟩
  · exact .inl ⟨hcan.mpr ⟨hholding, hspared⟩, happends.congr h.cluster⟩
  · exact .inr ⟨fun hboth => hlost rfl (hcan.mp hboth), happends.congr h.cluster⟩

end plans

end Simulation

end RouterOperator
