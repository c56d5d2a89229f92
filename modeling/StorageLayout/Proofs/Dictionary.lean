import StorageLayout.Dictionary

/-!
# Looking up keys

A dictionary holds each key once, so that looking up a key and finding its entry in the list are the
same.
-/
namespace StorageLayout.Dictionary

variable {α κ : Type} [DecidableEq κ]

/-- With distinct keys, the first entry of a key is its only one. -/
theorem lookup_eq_some_iff_mem {entries : List (κ × α)} (distinct : (entries.map Prod.fst).Nodup)
    (key : κ) (value : α) : entries.lookup key = some value ↔ (key, value) ∈ entries := by
  induction entries with
  | nil => simp
  | cons entry rest ih =>
    obtain ⟨k, v⟩ := entry
    rw [List.map_cons, List.nodup_cons] at distinct
    by_cases same : key = k
    · subst same
      have other : (key, value) ∉ rest := fun member =>
        distinct.1 (List.mem_map.2 ⟨_, member, rfl⟩)
      simp [other, eq_comm]
    · have unequal : (key == k) = false := by simpa using same
      simp [List.lookup_cons, unequal, same, ih distinct.2]

theorem find?_eq_some_iff (d : Dictionary α κ) (key : κ) (value : α) :
    d.find? key = some value ↔ (key, value) ∈ d.entries :=
  lookup_eq_some_iff_mem d.keys_distinct key value

theorem find?_eq_none_iff (d : Dictionary α κ) (key : κ) : d.find? key = none ↔ key ∉ d.keys := by
  rw [find?, List.lookup_eq_none_iff, keys, List.mem_map]
  constructor
  · rintro absent ⟨entry, member, rfl⟩
    simpa using absent entry member
  · intro absent entry member
    simpa using fun same => absent ⟨entry, member, same.symm⟩

theorem contains_iff (d : Dictionary α κ) (key : κ) : d.contains key ↔ key ∈ d.keys := by
  rw [contains, Option.isSome_iff_ne_none, ne_eq, find?_eq_none_iff, Decidable.not_not]

theorem lookup_cons_eq_ite (k key : κ) (value : α) (rest : List (κ × α)) :
    ((key, value) :: rest).lookup k = if k = key then some value else rest.lookup k := by
  by_cases same : k = key
  · simp [same]
  · have unequal : (k == key) = false := by simpa using same
    simp [List.lookup_cons, unequal, same]

/-- The values of the other keys stay. -/
theorem lookup_insertEntry (key k : κ) (value : α) (entries : List (κ × α)) :
    (insertEntry key value entries).lookup k =
      if k = key then some value else entries.lookup k := by
  induction entries with
  | nil => simp [insertEntry, lookup_cons_eq_ite]
  | cons entry rest ih =>
    obtain ⟨key', v⟩ := entry
    rw [insertEntry]
    split
    · next held =>
      subst held
      by_cases same : k = key' <;> simp [lookup_cons_eq_ite, same]
    · next other =>
      rw [lookup_cons_eq_ite, lookup_cons_eq_ite, ih]
      by_cases here : k = key'
      · simp [here, other]
      · simp [here]

@[simp] theorem find?_insert (d : Dictionary α κ) (key k : κ) (value : α) :
    (d.insert key value).find? k = if k = key then some value else d.find? k :=
  lookup_insertEntry key k value d.entries

@[simp] theorem find?_erase (d : Dictionary α κ) (key k : κ) :
    (d.erase key).find? k = if k = key then none else d.find? k := by
  apply Option.ext
  intro value
  rw [find?_eq_some_iff, erase, List.mem_filter]
  by_cases same : k = key
  · simp [same]
  · simp [same, find?_eq_some_iff]

theorem mem_keys_iff (d : Dictionary α κ) (key : κ) :
    key ∈ d.keys ↔ ∃ value, d.find? key = some value := by
  rw [← Option.isSome_iff_exists, ← contains_iff]
  rfl

end StorageLayout.Dictionary
