import StorageLayout.Catalog
import StorageLayout.Proofs.Dictionary
import StorageLayout.Proofs.Lists

/-!
# Looking up names

A catalog holds each name once, in ascending order, so that its names determine the order of its
entries, and filing or erasing under one name leaves the other names alone.
-/
namespace StorageLayout.Catalog

variable {α : Type}

theorem names_strictly_ascending (c : Catalog α) : c.names.Pairwise (· < ·) :=
  List.pairwise_map.2 c.names_ascending

theorem names_distinct (c : Catalog α) : c.names.Nodup := by
  refine c.names_strictly_ascending.imp ?_
  rintro name _ less rfl
  exact String.lt_irrefl _ less

theorem find?_eq_some_iff (c : Catalog α) (name : String) (value : α) :
    c.find? name = some value ↔ (name, value) ∈ c.entries :=
  Dictionary.lookup_eq_some_iff_mem c.names_distinct name value

/-- A list with the names of a catalog, each once, is sorted into the order of the catalog. -/
theorem mergeSort_eq_names {c : Catalog α} {list : List String} (distinct : list.Nodup)
    (same : ∀ name, name ∈ list ↔ name ∈ c.names) : list.mergeSort (· ≤ ·) = c.names := by
  have ascending : c.names.Pairwise (· ≤ ·) := c.names_strictly_ascending.imp fun less =>
    String.not_lt.1 (String.lt_asymm less)
  have rearranged : (list.mergeSort (· ≤ ·)).Perm c.names :=
    (List.mergeSort_perm list _).trans
      ((List.perm_ext_iff_of_nodup distinct c.names_distinct).2 same)
  exact rearranged.eq_of_pairwise (fun _ _ _ _ => String.le_antisymm)
    (pairwise_le_mergeSort list) ascending

theorem mem_names_iff (c : Catalog α) (name : String) :
    name ∈ c.names ↔ ∃ value, c.find? name = some value := by
  simp [names, find?_eq_some_iff]

/-- A catalog is determined by what it holds under each name. -/
theorem eq_of_find?_eq {c d : Catalog α} (same : ∀ name, c.find? name = d.find? name) : c = d := by
  have distinct (c : Catalog α) : c.entries.Nodup := by
    refine c.names_ascending.imp ?_
    rintro entry _ less rfl
    exact String.lt_irrefl _ less
  have entries : c.entries.Perm d.entries := by
    refine (List.perm_ext_iff_of_nodup (distinct c) (distinct d)).2 ?_
    rintro ⟨name, value⟩
    rw [← c.find?_eq_some_iff, ← d.find?_eq_some_iff, same]
  have antisymmetric (a b : String × α) : a ∈ c.entries → b ∈ d.entries → a.1 < b.1 → b.1 < a.1 →
      a = b := fun _ _ less greater => absurd greater (String.lt_asymm less)
  have equal := entries.eq_of_pairwise antisymmetric c.names_ascending d.names_ascending
  cases c
  cases d
  cases equal
  rfl

/-- What is filed under the other names stays. -/
theorem lookup_insertEntry {name : String} (n : String) {value : α}
    {entries : List (String × α)} :
    (insertEntry name value entries).lookup n =
      if n = name then some value else entries.lookup n := by
  induction entries with
  | nil => simp [insertEntry, Dictionary.lookup_cons_eq_ite]
  | cons entry rest ih =>
    obtain ⟨k, v⟩ := entry
    rw [insertEntry]
    split
    · rw [Dictionary.lookup_cons_eq_ite]
    · split
      · next held =>
        subst held
        by_cases same : n = name <;> simp [Dictionary.lookup_cons_eq_ite, same]
      · next other =>
        rw [Dictionary.lookup_cons_eq_ite, Dictionary.lookup_cons_eq_ite, ih]
        by_cases here : n = k
        · simp [here, Ne.symm other]
        · simp [here]

@[simp] theorem find?_insert (c : Catalog α) (name n : String) (value : α) :
    (c.insert name value).find? n = if n = name then some value else c.find? n :=
  lookup_insertEntry n

@[simp] theorem find?_erase (c : Catalog α) (name n : String) :
    (c.erase name).find? n = if n = name then none else c.find? n := by
  apply Option.ext
  intro value
  rw [find?_eq_some_iff, erase, List.mem_filter]
  by_cases same : n = name
  · simp [same]
  · simp [same, find?_eq_some_iff]

@[simp] theorem find?_empty (name : String) : (empty : Catalog α).find? name = none := rfl

end StorageLayout.Catalog
