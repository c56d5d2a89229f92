import StorageLayout.Proofs.Files.Paths
import StorageLayout.Store.Directory

/-!
# Names of snapshots and names of files

A snapshot's file is named after it, and the name of the snapshot is read off the name of the file.
A name that may be used for a snapshot gives a file name that is plain.
-/
namespace StorageLayout

namespace SnapshotName

theorem toList_fileName (name : String) :
    (fileName name).toList = name.toList ++ ['.', 'j', 's', 'o', 'n'] := by
  simp [fileName]

theorem fileName_injective : Function.Injective fileName := by
  intro name other same
  have lists := congrArg String.toList same
  rw [toList_fileName, toList_fileName] at lists
  exact String.toList_inj.1 (List.append_cancel_right lists)

theorem ne_empty_of_isValid {name : String} (valid : isValid name) : name ≠ "" := by
  rintro rfl
  exact absurd valid (by decide)

theorem not_mem_of_isValid {name : String} (valid : isValid name) {c : Char}
    (refused : isSeparator c ∨ isControl c) : c ∉ name.toList := by
  intro listed
  unfold isValid at valid
  cases chars : name.toList with
  | nil => simp [chars] at listed
  | cons first rest =>
    rw [chars] at listed
    simp only [chars, Bool.and_eq_true, List.all_eq_true] at valid
    have accepted := valid.2 c listed
    rcases refused with refused | refused <;> simp [refused] at accepted

/-- A name that may be used gives the name of a file in the directory. -/
theorem isPlain_fileName {name : String} (valid : isValid name) : Path.IsPlain (fileName name) where
  no_slash := by
    have absent := not_mem_of_isValid valid (c := '/') (Or.inl (by decide))
    simp [toList_fileName, absent]
  no_null := by
    have absent := not_mem_of_isValid valid (c := '\x00') (Or.inr (by decide))
    simp [toList_fileName, absent]
  not_empty := by
    intro empty
    have lists := congrArg String.toList empty
    simp [toList_fileName] at lists
  not_relative := by
    have longer (other : String) (short : other.length ≤ 2) : fileName name ≠ other := by
      rintro rfl
      rw [← String.length_toList, toList_fileName, List.length_append] at short
      simp at short
    simp [FileTree.isRelativeName, longer "." (by decide), longer ".." (by decide)]

/-- The name of a snapshot is the stem of the name of its file. -/
theorem stemAndExtension?_fileName {name : String} (some_name : name ≠ "") :
    Path.stemAndExtension? (fileName name) = some (name, "json") := by
  refine Path.stemAndExtension?_eq_some_iff.2 ⟨?_, some_name, by decide⟩
  rw [fileName, String.append_assoc]
  rfl

end SnapshotName

namespace DirectoryStore

theorem snapshotName?_fileName {name : String} (some_name : name ≠ "") :
    snapshotName? (SnapshotName.fileName name) = some name := by
  simp [snapshotName?, SnapshotName.stemAndExtension?_fileName some_name]

/-- Only the file of a snapshot is taken for its file. -/
theorem eq_fileName_of_snapshotName? {file name : String} (named : snapshotName? file = some name) :
    file = SnapshotName.fileName name ∧ name ≠ "" := by
  unfold snapshotName? at named
  split at named
  · next stem cut =>
    obtain rfl := Option.some.inj named
    obtain ⟨spelled, some_stem, -⟩ := Path.stemAndExtension?_eq_some_iff.1 cut
    rw [String.append_assoc] at spelled
    exact ⟨spelled, some_stem⟩
  · cases named

theorem snapshotName?_eq_some_iff {file name : String} :
    snapshotName? file = some name ↔ file = SnapshotName.fileName name ∧ name ≠ "" :=
  ⟨eq_fileName_of_snapshotName?, fun ⟨same, some_name⟩ => same ▸ snapshotName?_fileName some_name⟩

end DirectoryStore
end StorageLayout
