import Std.Data.DTreeMap
import RouterOperator.Reconcile.Program

/-!
# A store in memory

A store of objects under kind, namespace and name. Every write gives the object the next number of
one counter as its version, and a write that carries a version must carry the stored one. A failure
may be planted, which the next write gets instead of taking effect.
-/

namespace RouterOperator

/-- The key of an object in a store. -/
structure ObjectKey where
  kind : Kind
  ns : String
  name : String
deriving DecidableEq

namespace ObjectKey

/-- Keys are ordered by kind, then namespace, then name. -/
def order : ObjectKey → ObjectKey → Ordering :=
  compareLex (compareOn (·.kind.index)) (compareLex (compareOn (·.ns)) (compareOn (·.name)))

instance : Std.TransCmp order := by unfold order; infer_instance

theorem index_injective {first second : Kind} (h : first.index = second.index) :
    first = second := by
  revert h; cases first <;> cases second <;> decide

instance : Std.LawfulEqCmp order where
  eq_of_compare {first second} h := by
    simp only [order, compareLex_eq_eq, compareOn] at h
    obtain ⟨hkind, hns, hname⟩ := h
    have hkind := index_injective (Std.LawfulEqCmp.eq_of_compare hkind)
    have hns := Std.LawfulEqCmp.eq_of_compare hns
    have hname := Std.LawfulEqCmp.eq_of_compare hname
    cases first
    cases second
    simp_all

/-- The key of an object that is written to a namespace. -/
def of (kind : Kind) (ns : String) (object : kind.Object) : ObjectKey :=
  ⟨kind, ns, kind.nameOf object⟩

/-- The type of an object, as its API version and kind. -/
def typeName (key : ObjectKey) : String := s!"{key.kind.apiType.apiVersion}/{key.kind.name}"

end ObjectKey

/-- The way an object was changed. -/
inductive Verb where
  | create
  | replace
  | status
deriving DecidableEq

/-- The name of a way to change an object. -/
def Verb.name : Verb → String
  | create => "create"
  | replace => "replace"
  | status => "status"

/-- A change that took effect. -/
structure Mutation where
  verb : Verb
  key : ObjectKey
deriving DecidableEq

/-- The text of a change. -/
def Mutation.text (mutation : Mutation) : String :=
  s!"{mutation.verb.name} {mutation.key.typeName} {mutation.key.name}"

/-- A failure to plant. -/
inductive PlantedFailure where
  | conflict
  | transient
deriving DecidableEq

/-- The failure of this name. -/
def PlantedFailure.ofName? : String → Option PlantedFailure
  | "Conflict" => some conflict
  | "Transient" => some transient
  | _ => none

/-- The error a planted failure gives. -/
def PlantedFailure.error : PlantedFailure → Error
  | conflict => .conflict "injected conflict"
  | transient => .transient

/-- A store in memory. -/
structure MemoryStore where
  objects : Std.DTreeMap ObjectKey (fun key => key.kind.Object) ObjectKey.order := ∅
  version : Nat := 0
  mutations : List Mutation := []
  notices : List Notice := []
  failure : Option PlantedFailure := none

namespace MemoryStore

/-- The stored object under a key. -/
def object? (store : MemoryStore) (key : ObjectKey) : Option key.kind.Object :=
  store.objects.get? key

/-- The stored cluster of a namespace and name. -/
def cluster? (store : MemoryStore) (ns name : String) : Option Interconnect :=
  store.object? ⟨.interconnect, ns, name⟩

/-- Stores an object under the next version. -/
def put (store : MemoryStore) (key : ObjectKey) (object : key.kind.Object) : MemoryStore :=
  let version := store.version + 1
  { store with
    objects := store.objects.insert key (key.kind.withVersion object (toString version))
    version }

/-- Stores an object and notes the change. -/
def change (store : MemoryStore) (verb : Verb) (key : ObjectKey) (object : key.kind.Object) :
    MemoryStore :=
  let stored := store.put key object
  { stored with mutations := stored.mutations ++ [⟨verb, key⟩] }

/-- Seeds or overwrites an object in the namespace it names; this is not noted as a change. -/
def insert (store : MemoryStore) (kind : Kind) (object : kind.Object) : MemoryStore :=
  store.put (.of kind (kind.metadata object).anySpace object) object

/-- Plants a failure for the next write. -/
def plant (store : MemoryStore) (failure : PlantedFailure) : MemoryStore :=
  { store with failure := some failure }

/-- The stored object under a key, if a write of `incoming` may take effect. -/
def current? (store : MemoryStore) (key : ObjectKey) (incoming : key.kind.Object) :
    Except Error key.kind.Object :=
  match store.object? key with
  | none => .error (.notFound s!"{key.typeName} {key.name}")
  | some stored =>
    let given := key.kind.version? incoming
    if given.isSome ∧ given ≠ key.kind.version? stored then
      .error (.conflict s!"{key.typeName} {key.name} has been modified")
    else .ok stored

/-- The pods that a selector of pairs `label=value`, separated by commas, selects. A part without an
equals sign selects nothing and excludes nothing. -/
def selects (selector : String) (labels : Dict String) : Bool :=
  let parts := (selector.toList.splitOn ',').map fun part =>
    (part.takeWhile (· ≠ '='), part.dropWhile (· ≠ '='))
  parts.all fun (label, rest) =>
    match rest with
    | [] => true
    | _ :: value => labels.get? (String.ofList label) = some (String.ofList value)

/-- The pods of a namespace, in the order of their names. -/
def podsIn (store : MemoryStore) (ns : String) : List Pod :=
  store.objects.toList.filterMap fun ⟨key, object⟩ =>
    match key, object with
    | ⟨.pod, space, _⟩, object => if space = ns then some object else none
    | _, _ => none

/-- A write: the planted failure strikes first, if there is one. -/
def write (store : MemoryStore) (effect : MemoryStore → Except Error MemoryStore) :
    Except Error Unit × MemoryStore :=
  match store.failure with
  | some failure => (.error failure.error, { store with failure := none })
  | none =>
    match effect store with
    | .ok store => (.ok (), store)
    | .error error => (.error error, store)

/-- Carries out a call. -/
def call (store : MemoryStore) : (request : StoreCall) → Except Error request.Reply × MemoryStore
  | .get kind ns name => (.ok (store.object? ⟨kind, ns, name⟩), store)
  | .listPods ns selector =>
    (.ok ((store.podsIn ns).filter fun pod => selects selector pod.metadata.allLabels), store)
  | .create kind ns object => store.write fun store =>
    let key := ObjectKey.of kind ns object
    if (store.object? key).isSome then .ok store else .ok (store.change .create key object)
  | .replace kind ns object => store.write fun store => do
    let key := ObjectKey.of kind ns object
    let _ ← store.current? key object
    return store.change .replace key object
  | .replaceCluster cluster => store.write fun store => do
    let key := ObjectKey.of .interconnect cluster.space cluster
    let stored : Interconnect ← store.current? key cluster
    return store.change .replace key { cluster with status := stored.status }
  | .replaceStatus cluster => store.write fun store => do
    let key := ObjectKey.of .interconnect cluster.space cluster
    let stored : Interconnect ← store.current? key cluster
    return store.change .status key { stored with status := cluster.status }
  | .publish _ notice => (.ok (), { store with notices := store.notices ++ [notice] })

end MemoryStore

end RouterOperator
