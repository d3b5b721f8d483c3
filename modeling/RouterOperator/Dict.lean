/-!
# Keyed entries

A `Dict` is a list of string keys with values: label sets, annotations, the data of a config map,
the members of a JSON object. Storing a value under a key removes what was there and puts the new
entry before the first greater key, so a dictionary that was filled entry by entry is in ascending
order and has no key twice. The laws of reading, storing and forgetting after storing and forgetting
hold for any entries.
-/

namespace RouterOperator

/-- Entries of a dictionary, in ascending key order when they were stored one by one. -/
structure Dict (α : Type) where
  entries : List (String × α)
deriving DecidableEq, Inhabited

namespace Dict

variable {α : Type}

/-- The entries with other keys than this one. -/
def drop (key : String) (entries : List (String × α)) : List (String × α) :=
  entries.filter (·.1 ≠ key)

/-- The entries with one more in its place, instead of those with the same key. -/
def put (key : String) (value : α) (entries : List (String × α)) : List (String × α) :=
  (drop key entries).takeWhile (·.1 < key) ++
    (key, value) :: (drop key entries).dropWhile (·.1 < key)

/-- The dictionary without entries. -/
def empty : Dict α := ⟨[]⟩

/-- The value stored under a key. -/
def get? (dict : Dict α) (key : String) : Option α := dict.entries.lookup key

/-- Stores a value under a key. -/
def insert (dict : Dict α) (key : String) (value : α) : Dict α := ⟨put key value dict.entries⟩

/-- Forgets a key. -/
def erase (dict : Dict α) (key : String) : Dict α := ⟨drop key dict.entries⟩

/-- Collects entries; of two entries with one key the later wins. -/
def ofList (entries : List (String × α)) : Dict α :=
  entries.foldl (fun dict entry => dict.insert entry.1 entry.2) empty

@[simp] theorem lookup_drop_self (key : String) (entries : List (String × α)) :
    (drop key entries).lookup key = none := by
  rw [List.lookup_eq_none_iff]
  intro entry hentry
  have hne : entry.1 ≠ key := of_decide_eq_true (List.mem_filter.mp hentry).2
  exact bne_iff_ne.mpr hne.symm

theorem lookup_drop_of_ne {key asked : String} (hne : asked ≠ key)
    (entries : List (String × α)) : (drop key entries).lookup asked = entries.lookup asked := by
  induction entries with
  | nil => rfl
  | cons entry rest ih =>
      unfold drop at ih ⊢
      by_cases hkey : entry.1 = key
      · rw [List.filter_cons_of_neg (by simp [hkey]), ih, List.lookup_cons, hkey,
          beq_false_of_ne hne]
      · rw [List.filter_cons_of_pos (by simp [hkey]), List.lookup_cons, List.lookup_cons, ih]

/-- Splitting the other entries in two does not change what they hold. -/
theorem lookup_split (asked key : String) (entries : List (String × α)) :
    (((drop key entries).takeWhile (·.1 < key)).lookup asked).or
        (((drop key entries).dropWhile (·.1 < key)).lookup asked) =
      (drop key entries).lookup asked := by
  rw [← List.lookup_append, List.takeWhile_append_dropWhile]

@[simp] theorem lookup_put_self (key : String) (value : α) (entries : List (String × α)) :
    (put key value entries).lookup key = some value := by
  have hnone := lookup_split key key entries
  rw [lookup_drop_self, Option.or_eq_none_iff] at hnone
  rw [put, List.lookup_append, hnone.1, Option.none_or, List.lookup_cons_self]

theorem lookup_put_of_ne {key asked : String} (hne : asked ≠ key) (value : α)
    (entries : List (String × α)) :
    (put key value entries).lookup asked = entries.lookup asked := by
  rw [put, List.lookup_append, List.lookup_cons, beq_false_of_ne hne]
  exact (lookup_split asked key entries).trans (lookup_drop_of_ne hne entries)

@[simp] theorem get?_insert_self (dict : Dict α) (key : String) (value : α) :
    (dict.insert key value).get? key = some value :=
  lookup_put_self key value dict.entries

theorem get?_insert_of_ne (dict : Dict α) {key asked : String} (hne : asked ≠ key) (value : α) :
    (dict.insert key value).get? asked = dict.get? asked :=
  lookup_put_of_ne hne value dict.entries

@[simp] theorem get?_erase_self (dict : Dict α) (key : String) :
    (dict.erase key).get? key = none :=
  lookup_drop_self key dict.entries

theorem get?_erase_of_ne (dict : Dict α) {key asked : String} (hne : asked ≠ key) :
    (dict.erase key).get? asked = dict.get? asked :=
  lookup_drop_of_ne hne dict.entries

@[simp] theorem drop_drop_self (key : String) (entries : List (String × α)) :
    drop key (drop key entries) = drop key entries := by
  unfold drop
  rw [List.filter_filter]
  simp only [Bool.and_self]

theorem drop_append (key : String) (first second : List (String × α)) :
    drop key (first ++ second) = drop key first ++ drop key second :=
  List.filter_append first second

/-- Storing changes none of the other entries, nor their order. -/
@[simp] theorem drop_put_self (key : String) (value : α) (entries : List (String × α)) :
    drop key (put key value entries) = drop key entries := by
  have hself : drop key [(key, value)] = [] := List.filter_cons_of_neg (by simp)
  rw [put, ← List.singleton_append, drop_append, drop_append, hself, List.nil_append,
    ← drop_append, List.takeWhile_append_dropWhile, drop_drop_self]

@[simp] theorem erase_erase_self (dict : Dict α) (key : String) :
    (dict.erase key).erase key = dict.erase key := by
  simp only [erase, drop_drop_self]

@[simp] theorem erase_insert_self (dict : Dict α) (key : String) (value : α) :
    (dict.insert key value).erase key = dict.erase key := by
  simp only [erase, insert, drop_put_self]

/-- The later of two values under one key is the only one that counts. -/
@[simp] theorem insert_insert_self (dict : Dict α) (key : String) (first second : α) :
    (dict.insert key first).insert key second = dict.insert key second := by
  unfold insert
  rw [put, drop_put_self, put]

end Dict

end RouterOperator
