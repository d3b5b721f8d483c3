import Std.Data.String.ToNat
import RouterOperator.Store.Memory

/-!
# The objects of a store in memory

A store is in order when every object lies under its own name, clusters under their own namespace,
and each carries a version that the counter has issued, no two the same. Every change keeps a store
in order: it gives the object that it writes the next version, which no object has had before.
-/

namespace RouterOperator

namespace Kind

variable (kind : Kind) (object : kind.Object)

@[simp] theorem metadata_withMetadata (metadata : ObjectMeta) :
    kind.metadata (kind.withMetadata object metadata) = metadata := by
  cases kind <;> rfl

@[simp] theorem version?_withVersion (version : String) :
    kind.version? (kind.withVersion object version) = some version := by
  simp [version?, withVersion]

@[simp] theorem nameOf_withVersion (version : String) :
    kind.nameOf (kind.withVersion object version) = kind.nameOf object := by
  simp [nameOf, withVersion, ObjectMeta.anyName]

@[simp] theorem anySpace_withVersion (version : String) :
    (kind.metadata (kind.withVersion object version)).anySpace =
      (kind.metadata object).anySpace := by
  simp [withVersion, ObjectMeta.anySpace]

end Kind

/-- An object lies under its own name, and a cluster under its own namespace. -/
structure ObjectKey.Fits (key : ObjectKey) (object : key.kind.Object) : Prop where
  name : key.kind.nameOf object = key.name
  space : key.kind = .interconnect → (key.kind.metadata object).anySpace = key.ns

theorem ObjectKey.Fits.withVersion {key : ObjectKey} {object : key.kind.Object}
    (h : key.Fits object) (version : String) : key.Fits (key.kind.withVersion object version) := by
  refine ⟨?_, fun hkind => ?_⟩
  · rw [Kind.nameOf_withVersion]
    exact h.name
  · rw [Kind.anySpace_withVersion]
    exact h.space hkind

namespace MemoryStore

variable {store : MemoryStore}

@[simp] theorem object?_put_self (store : MemoryStore) (key : ObjectKey)
    (object : key.kind.Object) :
    (store.put key object).object? key =
      some (key.kind.withVersion object (toString (store.version + 1))) := by
  simp [object?, put]

theorem object?_put_of_ne {key other : ObjectKey} (hne : other ≠ key) (store : MemoryStore)
    (object : key.kind.Object) : (store.put key object).object? other = store.object? other := by
  have hcompare : ¬ ObjectKey.order key other = .eq := fun h =>
    hne (Std.LawfulEqCmp.eq_of_compare h).symm
  simp [object?, put, Std.DTreeMap.get?_insert, hcompare]

theorem object?_insert_of_kind_ne {key : ObjectKey} {kind : Kind} (hkind : kind ≠ key.kind)
    (store : MemoryStore) (object : kind.Object) :
    (store.insert kind object).object? key = store.object? key := by
  refine object?_put_of_ne ?_ _ _
  rintro rfl
  exact hkind rfl

@[simp] theorem object?_change (store : MemoryStore) (verb : Verb) (key other : ObjectKey)
    (object : key.kind.Object) :
    (store.change verb key object).object? other = (store.put key object).object? other := rfl

theorem object?_change_of_ne {key other : ObjectKey} (hne : other ≠ key) (store : MemoryStore)
    (verb : Verb) (object : key.kind.Object) :
    (store.change verb key object).object? other = store.object? other :=
  object?_put_of_ne hne store object

/-- Every object lies where it belongs. -/
def Placed (store : MemoryStore) : Prop :=
  ∀ key object, store.object? key = some object → key.Fits object

theorem Placed.put (h : store.Placed) {key : ObjectKey} {object : key.kind.Object}
    (hfits : key.Fits object) : (store.put key object).Placed := by
  intro other object' hother
  by_cases heq : other = key
  · subst heq
    rw [object?_put_self] at hother
    cases hother
    exact hfits.withVersion _
  · rw [object?_put_of_ne heq] at hother
    exact h other object' hother

theorem Placed.change (h : store.Placed) (verb : Verb) {key : ObjectKey}
    {object : key.kind.Object} (hfits : key.Fits object) :
    (store.change verb key object).Placed := h.put hfits

/-- Every object lies where it belongs, under a version of its own that the counter has issued. -/
structure WellFormed (store : MemoryStore) : Prop where
  fits : store.Placed
  issued : ∀ key object, store.object? key = some object →
    ∃ number, number ≤ store.version ∧ key.kind.version? object = some (toString number)
  unique : ∀ key object other object',
    store.object? key = some object → store.object? other = some object' →
      key.kind.version? object = other.kind.version? object' → key = other

/-- No two numbers make the same version. -/
theorem toString_injective {first second : Nat} (h : toString first = toString second) :
    first = second := Nat.repr_injective h

theorem wellFormed_empty : ({} : MemoryStore).WellFormed := by
  have hnone : ∀ key, ({} : MemoryStore).object? key = none := fun key => by simp [object?]
  refine ⟨?_, ?_, ?_⟩
  · intro key object h
    rw [hnone] at h
    cases h
  · intro key object h
    rw [hnone] at h
    cases h
  · intro key object other object' h
    rw [hnone] at h
    cases h

/-- A written object gets a version that no object of the store has. -/
theorem WellFormed.version_ne (h : store.WellFormed) {key : ObjectKey} {object : key.kind.Object}
    (hstored : store.object? key = some object) :
    key.kind.version? object ≠ some (toString (store.version + 1)) := by
  obtain ⟨number, hle, hversion⟩ := h.issued key object hstored
  rw [hversion]
  intro hsame
  have hnumber := toString_injective (Option.some.inj hsame)
  omega

theorem WellFormed.put (h : store.WellFormed) {key : ObjectKey} {object : key.kind.Object}
    (hfits : key.Fits object) : (store.put key object).WellFormed := by
  -- what the store holds afterwards is the new object or an old one under another key
  have hcases : ∀ other object', (store.put key object).object? other = some object' →
      (other = key ∧ other.kind.version? object' = some (toString (store.version + 1))) ∨
        (other ≠ key ∧ store.object? other = some object') := by
    intro other object' hother
    by_cases heq : other = key
    · subst heq
      rw [object?_put_self] at hother
      cases hother
      exact Or.inl ⟨rfl, Kind.version?_withVersion _ _ _⟩
    · rw [object?_put_of_ne heq] at hother
      exact Or.inr ⟨heq, hother⟩
  refine ⟨h.fits.put hfits, ?_, ?_⟩
  · intro other object' hother
    rcases hcases other object' hother with ⟨-, hnew⟩ | ⟨-, hold⟩
    · exact ⟨store.version + 1, Nat.le_refl _, hnew⟩
    · obtain ⟨number, hle, hversion⟩ := h.issued other object' hold
      exact ⟨number, Nat.le_trans hle (Nat.le_succ _), hversion⟩
  · intro first object₁ second object₂ hfirst hsecond hversion
    rcases hcases first object₁ hfirst with ⟨heq₁, hnew₁⟩ | ⟨-, hold₁⟩
    · rcases hcases second object₂ hsecond with ⟨heq₂, -⟩ | ⟨-, hold₂⟩
      · exact heq₁.trans heq₂.symm
      · exact absurd (hversion.symm.trans hnew₁) (h.version_ne hold₂)
    · rcases hcases second object₂ hsecond with ⟨-, hnew₂⟩ | ⟨-, hold₂⟩
      · exact absurd (hversion.trans hnew₂) (h.version_ne hold₁)
      · exact h.unique _ _ _ _ hold₁ hold₂ hversion

theorem WellFormed.change (h : store.WellFormed) (verb : Verb) {key : ObjectKey}
    {object : key.kind.Object} (hfits : key.Fits object) :
    (store.change verb key object).WellFormed :=
  ⟨(h.put hfits).fits, (h.put hfits).issued, (h.put hfits).unique⟩

theorem WellFormed.insert (h : store.WellFormed) (kind : Kind) (object : kind.Object) :
    (store.insert kind object).WellFormed :=
  h.put ⟨rfl, fun _ => rfl⟩

/-- The pods of a namespace depend on the stored pods alone. -/
theorem podsIn_congr {other : MemoryStore}
    (h : ∀ key, key.kind = .pod → store.object? key = other.object? key) (ns : String) :
    store.podsIn ns = other.podsIn ns := by
  let isPod : (key : ObjectKey) → key.kind.Object → Bool := fun key _ => key.kind = .pod
  -- leaving out everything but pods first makes no difference
  have honly : ∀ given : MemoryStore, given.podsIn ns =
      ({ given with objects := given.objects.filter isPod } : MemoryStore).podsIn ns := by
    intro given
    unfold podsIn
    rw [Std.DTreeMap.toList_filter, List.filterMap_filter]
    refine congrArg (List.filterMap · given.objects.toList) (funext fun entry => ?_)
    obtain ⟨⟨kind, space, name⟩, object⟩ := entry
    cases kind <;> rfl
  have hpods : (store.objects.filter isPod).Equiv (other.objects.filter isPod) := by
    refine .of_forall_get?_eq fun key => ?_
    rw [Std.DTreeMap.get?_filter, Std.DTreeMap.get?_filter]
    by_cases hkey : key.kind = .pod
    · exact congrArg (Option.filter (isPod key)) (h key hkey)
    · have hnone : ∀ found : Option key.kind.Object, found.filter (isPod key) = none := by
        intro found
        cases found <;> simp [isPod, hkey]
      rw [hnone, hnone]
  rw [honly store, honly other]
  unfold podsIn
  rw [hpods.toList_eq]

end MemoryStore

end RouterOperator
