/-!
# Dictionaries in insertion order

A dictionary holds each key once and keeps its keys in the order in which they first came. A key
that comes again replaces the value in its old place. Keys are texts unless another type is named.
-/
namespace StorageLayout

/-- A dictionary whose entries keep the order in which their keys first came. -/
structure Dictionary (α : Type) (κ : Type := String) where
  entries : List (κ × α)
  keys_distinct : (entries.map Prod.fst).Nodup

namespace Dictionary

variable {α κ : Type}

instance : Inhabited (Dictionary α κ) := ⟨⟨[], .nil⟩⟩

def empty : Dictionary α κ := ⟨[], .nil⟩

def keys (d : Dictionary α κ) : List κ := d.entries.map Prod.fst

def values (d : Dictionary α κ) : List α := d.entries.map Prod.snd

variable [DecidableEq κ]

def find? (d : Dictionary α κ) (key : κ) : Option α := d.entries.lookup key

def contains (d : Dictionary α κ) (key : κ) : Bool := (d.find? key).isSome

/-- Entries with a key's value replaced in its place, or added at the end. -/
def insertEntry (key : κ) (value : α) : List (κ × α) → List (κ × α)
  | [] => [(key, value)]
  | (k, v) :: rest => if k = key then (k, value) :: rest else (k, v) :: insertEntry key value rest

/-- A key that is new goes to the end; otherwise the keys stay as they are. -/
theorem map_fst_insertEntry (key : κ) (value : α) (entries : List (κ × α)) :
    (insertEntry key value entries).map Prod.fst =
      if key ∈ entries.map Prod.fst then entries.map Prod.fst
      else entries.map Prod.fst ++ [key] := by
  induction entries with
  | nil => simp [insertEntry]
  | cons entry rest ih =>
    obtain ⟨k, v⟩ := entry
    by_cases h : k = key
    · simp [insertEntry, h]
    · have h' : key ≠ k := fun e => h e.symm
      by_cases m : key ∈ rest.map Prod.fst <;> simp_all [insertEntry]

/-- The dictionary with a key's value replaced in its place, or added at the end. -/
def insert (d : Dictionary α κ) (key : κ) (value : α) : Dictionary α κ where
  entries := insertEntry key value d.entries
  keys_distinct := by
    rw [map_fst_insertEntry]
    split
    · exact d.keys_distinct
    · next h =>
      refine List.nodup_append.2 ⟨d.keys_distinct, by simp, ?_⟩
      intro a ha b hb e
      simp only [List.mem_singleton] at hb
      exact h (hb ▸ e ▸ ha)

/-- The dictionary of a list of entries, later values of a key replacing earlier ones. -/
def ofList (entries : List (κ × α)) : Dictionary α κ :=
  entries.foldl (fun d (key, value) => d.insert key value) empty

def erase (d : Dictionary α κ) (key : κ) : Dictionary α κ where
  entries := d.entries.filter (·.1 ≠ key)
  keys_distinct := d.keys_distinct.sublist (List.filter_sublist.map Prod.fst)

end Dictionary
end StorageLayout
