/-!
# Values filed under names, in name order

A catalog holds each name once and lists its names in ascending order, compared by code point.
-/
namespace StorageLayout

/-- Values filed under names, in ascending order of the names. -/
structure Catalog (α : Type) where
  entries : List (String × α)
  names_ascending : entries.Pairwise (fun a b => a.1 < b.1)

namespace Catalog

variable {α : Type}

instance : Inhabited (Catalog α) := ⟨⟨[], .nil⟩⟩

def empty : Catalog α := ⟨[], .nil⟩

def names (c : Catalog α) : List String := c.entries.map Prod.fst

def find? (c : Catalog α) (name : String) : Option α := c.entries.lookup name

def contains (c : Catalog α) (name : String) : Bool := (c.find? name).isSome

/-- Entries in name order with one value filed, in place of any earlier one of its name. -/
def insertEntry (name : String) (value : α) : List (String × α) → List (String × α)
  | [] => [(name, value)]
  | (n, v) :: rest =>
    if name < n then (name, value) :: (n, v) :: rest
    else if name = n then (name, value) :: rest
    else (n, v) :: insertEntry name value rest

theorem mem_insertEntry {name : String} {value : α} {entries : List (String × α)}
    {entry : String × α} (h : entry ∈ insertEntry name value entries) :
    entry = (name, value) ∨ entry ∈ entries := by
  induction entries with
  | nil => simpa [insertEntry] using h
  | cons head rest ih =>
    obtain ⟨n, v⟩ := head
    grind [insertEntry]

/-- Filing a value keeps the order of the names, be the name new or not. -/
theorem pairwise_insertEntry {name : String} {value : α} {entries : List (String × α)}
    (h : entries.Pairwise (fun a b => a.1 < b.1)) :
    (insertEntry name value entries).Pairwise (fun a b => a.1 < b.1) := by
  induction entries with
  | nil => simp [insertEntry]
  | cons head rest ih =>
    obtain ⟨n, v⟩ := head
    rw [List.pairwise_cons] at h
    rw [insertEntry]
    split
    · next hlt =>
      refine List.pairwise_cons.2 ⟨fun b hb => ?_, List.pairwise_cons.2 h⟩
      rcases List.mem_cons.1 hb with rfl | hb
      · exact hlt
      · exact String.lt_trans hlt (h.1 b hb)
    · next hlt =>
      split
      · next heq => exact List.pairwise_cons.2 ⟨heq ▸ h.1, h.2⟩
      · next hne =>
        refine List.pairwise_cons.2 ⟨fun b hb => ?_, ih h.2⟩
        rcases mem_insertEntry hb with rfl | hb
        · rcases String.le_total n name with hle | hle
          · exact Std.lt_of_le_of_ne hle fun e => hne e.symm
          · exact absurd (String.le_antisymm hle (String.not_lt.1 hlt)) hne
        · exact h.1 b hb

/-- The catalog with a value filed under a name, in place of any earlier one. -/
def insert (c : Catalog α) (name : String) (value : α) : Catalog α :=
  ⟨insertEntry name value c.entries, pairwise_insertEntry c.names_ascending⟩

def erase (c : Catalog α) (name : String) : Catalog α :=
  ⟨c.entries.filter (·.1 ≠ name), c.names_ascending.filter _⟩

/-- The catalog of a list of entries, later values of a name replacing earlier ones. -/
def ofList (entries : List (String × α)) : Catalog α :=
  entries.foldl (fun c (name, value) => c.insert name value) empty

end Catalog
end StorageLayout
