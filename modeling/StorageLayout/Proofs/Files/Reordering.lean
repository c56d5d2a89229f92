import StorageLayout.Proofs.Files.Trees

/-!
# Trees whose directories are listed in another order

The order in which a directory is listed is left to the system. Where paths lead, and what is read
there, does not depend on it; only the list of the names itself does.
-/
namespace StorageLayout

theorem Dictionary.find?_eq_of_perm {α : Type} {d d' : Dictionary α}
    (same : d.entries.Perm d'.entries) (key : String) : d'.find? key = d.find? key := by
  apply Option.ext
  intro value
  rw [find?_eq_some_iff, find?_eq_some_iff, same.mem_iff]

namespace FileTree

/-- The other tree is the same but for the order in which its directories are listed. -/
structure Reordered (t t' : FileTree) : Prop where
  size : t'.directories.size = t.directories.size
  outer (number : Nat) : (t'.directory number).outer = (t.directory number).outer
  nodes (number : Nat) :
    (t.directory number).nodes.entries.Perm (t'.directory number).nodes.entries

namespace Reordered

variable {t t' : FileTree} (reordered : t.Reordered t')
include reordered

theorem entry? (number : Nat) (name : String) : t'.entry? number name = t.entry? number name :=
  Dictionary.find?_eq_of_perm (reordered.nodes number) name

theorem node? (place : Place) : t'.node? place = t.node? place := by
  cases place with
  | directory number => rfl
  | entry dir name => exact reordered.entry? dir name

theorem directoryAt (place : Place) : t'.directoryAt place = t.directoryAt place := by
  rw [FileTree.directoryAt, FileTree.directoryAt, reordered.node?, reordered.size]

theorem step (place : Place) (name : String) : t'.step place name = t.step place name := by
  simp only [FileTree.step, reordered.directoryAt, reordered.outer]

theorem walk (names : List String) : t'.walk names = t.walk names := by
  have same_step : t'.step = t.step := funext₂ reordered.step
  rw [FileTree.walk, FileTree.walk, same_step]

theorem locate (path : String) : t'.locate path = t.locate path := by
  simp only [FileTree.locate, reordered.walk, reordered.directoryAt]

theorem find (path : String) : t'.find path = t.find path := by
  simp only [FileTree.find, reordered.locate, reordered.node?]

theorem isFile (path : String) : t'.isFile path = t.isFile path := by
  rw [FileTree.isFile, FileTree.isFile, reordered.find]

theorem readText (path : String) : t'.readText path = t.readText path := by
  simp only [FileTree.readText, FileTree.readBytes, reordered.find]

/-- A directory can be listed in both trees or for the same reason in none, and the names are the
same in some order. -/
theorem entries (path : String) :
    (∃ failure, t.entries path = .error failure ∧ t'.entries path = .error failure) ∨
      ∃ names names', t.entries path = .ok names ∧ t'.entries path = .ok names' ∧
        names.Perm names' := by
  have same (names : List String) : t'.directoryOf names = t.directoryOf names := by
    simp only [directoryOf, reordered.walk, reordered.directoryAt]
  rw [entries_eq, entries_eq, same]
  cases Path.check path with
  | error failure => exact Or.inl ⟨failure, rfl, rfl⟩
  | ok _ =>
    cases t.directoryOf (Path.names path) with
    | error failure => exact Or.inl ⟨failure, rfl, rfl⟩
    | ok number => exact Or.inr ⟨_, _, rfl, rfl, (reordered.nodes number).map Prod.fst⟩

end Reordered
end FileTree
end StorageLayout
