import StorageLayout.Proofs.Files.Effects
import StorageLayout.Proofs.Store.Directory

/-!
# What a store changes

To save or to delete a document changes one file, which lies in the root and is named after the
document. Everything that can go wrong shows before this file is touched, so that a failure leaves
all files as they are. The other requests change nothing.
-/
namespace StorageLayout.DirectoryStore

open FileTree (Action KeepsFiles)

variable {s : DirectoryStore} {t t' : FileTree} {name other : String} {document : SnapshotDocument}

/-- The place of the file of a name: in the directory to which the root leads. -/
structure FiledAt (s : DirectoryStore) (t : FileTree) (name : String) (number : Nat) : Prop where
  root : t.directoryOf (Path.names s.root) = .ok number
  located : t.locate (Path.join s.root (SnapshotName.fileName name)) =
    .ok (.entry number (SnapshotName.fileName name))

theorem filedAt_of_reaches {number : Nat}
    (reaches : t.Reaches s.root (SnapshotName.fileName name) number) : s.FiledAt t name number :=
  ⟨reaches.found, reaches.locate⟩

/-- Different names have different files, wherever the root leads. -/
theorem eq_of_locate_eq (valid : SnapshotName.isValid name) (valid' : SnapshotName.isValid other)
    {place : Place}
    (located : t.locate (Path.join s.root (SnapshotName.fileName name)) = .ok place)
    (located' : t.locate (Path.join s.root (SnapshotName.fileName other)) = .ok place) :
    name = other := by
  obtain ⟨number, -, rfl⟩ :=
    FileTree.exists_reaches_of_locate (SnapshotName.isPlain_fileName valid) located
  obtain ⟨number', -, same⟩ :=
    FileTree.exists_reaches_of_locate (SnapshotName.isPlain_fileName valid') located'
  exact SnapshotName.fileName_injective (Place.entry.inj same).2

section Saving

/-- A document that is saved comes into the file of its name, from which it is fetched, and no other
file changes. -/
theorem effect_of_save (saved : (s.save name document : Action Unit).run t = (.ok (), t')) :
    ∃ number, s.FiledAt t' name number ∧
      KeepsFiles (· = .entry number (SnapshotName.fileName name)) t t' ∧
      (s.load name : Action SnapshotDocument).run t' = (.ok document, t') := by
  obtain ⟨number', keeps⟩ := exists_keeps_of_save saved
  cases saveEnds saved with
  | @written after number valid_name valid made reaches no_directory =>
    have directories : KeepsFiles (fun _ => False) t after := by
      have left := FileTree.leavesFiles_makeDirectories s.root t
      rwa [made] at left
    refine ⟨number, filedAt_of_reaches ?_,
      directories.weaken.trans (FileTree.keepsFiles_put no_directory), keeps.load⟩
    exact (FileTree.SameDirectories.put no_directory).reaches reaches

/-- If nothing is saved, all files are as they were. If the name or the document is refused, not
even a directory is made. -/
theorem effect_of_failed_save {e : StoreError}
    (failed : (s.save name document : Action Unit).run t = (.error e, t')) :
    KeepsFiles (fun _ => False) t t' ∧
      (SnapshotName.isValid name = false ∨ document.validate ≠ .ok () → t' = t) := by
  cases saveEnds failed with
  | refused bad => exact ⟨.refl t, fun _ => rfl⟩
  | failed valid_name valid left =>
    refine ⟨left ▸ FileTree.leavesFiles_makeDirectories s.root t, ?_⟩
    rintro (invalid | invalid)
    · rw [valid_name] at invalid
      cases invalid
    · exact absurd valid invalid

/-- Nothing is saved under a name that is refused, and no document that is not valid. -/
theorem exists_error_of_refused
    (bad : SnapshotName.isValid name = false ∨ document.validate ≠ .ok ()) :
    ∃ e, (s.save name document : Action Unit).run t = (.error e, t) := by
  rcases ran : (s.save name document : Action Unit).run t with ⟨_ | _, t'⟩
  · obtain rfl := (effect_of_failed_save ran).2 bad
    exact ⟨_, rfl⟩
  · cases saveEnds ran with
    | written valid_name valid made reaches no_directory =>
      rcases bad with invalid | invalid
      · rw [valid_name] at invalid
        cases invalid
      · exact absurd valid invalid

end Saving

/-- A document that is deleted was in the file of its name, which is gone, and no other file
changes. -/
theorem effect_of_delete (deleted : (s.delete name : Action Unit).run t = (.ok (), t')) :
    ∃ number, s.FiledAt t name number ∧
      (∃ content, t.entry? number (SnapshotName.fileName name) = some (.file content)) ∧
      t'.entry? number (SnapshotName.fileName name) = none ∧
      KeepsFiles (· = .entry number (SnapshotName.fileName name)) t t' := by
  rw [run_delete] at deleted
  cases valid : SnapshotName.isValid name with
  | false =>
    rw [path_of_invalid s valid] at deleted
    cases deleted
  | true =>
    rw [path_of_isValid s valid] at deleted
    dsimp only at deleted
    split at deleted
    · next removed ran =>
      obtain rfl := (Prod.mk.inj deleted).2
      obtain ⟨number, content, reaches, entry, rfl⟩ :=
        FileTree.exists_reaches_of_removeFile (SnapshotName.isPlain_fileName valid) ran
      have no_directory (inner : Nat) : t.entry? number (SnapshotName.fileName name) ≠
          some (.directory inner) := by simp [entry]
      refine ⟨number, filedAt_of_reaches reaches, ⟨content, entry⟩, ?_,
        FileTree.keepsFiles_remove no_directory⟩
      rw [FileTree.entry?_remove, if_pos ⟨⟨rfl, reaches.lt_size⟩, rfl⟩]
    · cases deleted

theorem effect_of_failed_delete {e : StoreError}
    (failed : (s.delete name : Action Unit).run t = (.error e, t')) : t' = t := by
  rw [run_delete] at failed
  split at failed
  · exact (Prod.mk.inj failed).2.symm
  · split at failed
    · cases failed
    · exact (Prod.mk.inj failed).2.symm

/-- The file of a name is a direct child of the root, and no other name has the same file. Saving
and deleting change this file at most, and a failure changes none; a name or a document that is
refused leaves everything as it is. What has been saved is fetched again. The other requests change
nothing. -/
theorem changes_stay_in_the_file_of_the_name (s : DirectoryStore) (t : FileTree) :
    (∀ name, SnapshotName.isValid name →
      Path.names (Path.join s.root (SnapshotName.fileName name)) =
        Path.names s.root ++ [SnapshotName.fileName name] ∧
      Path.stemAndExtension? (SnapshotName.fileName name) = some (name, "json") ∧
      ∀ other place, SnapshotName.isValid other →
        t.locate (Path.join s.root (SnapshotName.fileName name)) = .ok place →
        t.locate (Path.join s.root (SnapshotName.fileName other)) = .ok place → name = other) ∧
    (∀ name document,
      (∀ t', (s.save name document : Action Unit).run t = (.ok (), t') →
        ∃ number, s.FiledAt t' name number ∧
          KeepsFiles (· = .entry number (SnapshotName.fileName name)) t t' ∧
          (s.load name : Action SnapshotDocument).run t' = (.ok document, t')) ∧
      (∀ e t', (s.save name document : Action Unit).run t = (.error e, t') →
        KeepsFiles (fun _ => False) t t') ∧
      (SnapshotName.isValid name = false ∨ document.validate ≠ .ok () →
        ∃ e, (s.save name document : Action Unit).run t = (.error e, t))) ∧
    (∀ name,
      (∀ t', (s.delete name : Action Unit).run t = (.ok (), t') →
        ∃ number, s.FiledAt t name number ∧
          (∃ content, t.entry? number (SnapshotName.fileName name) = some (.file content)) ∧
          t'.entry? number (SnapshotName.fileName name) = none ∧
          KeepsFiles (· = .entry number (SnapshotName.fileName name)) t t') ∧
      ∀ e t', (s.delete name : Action Unit).run t = (.error e, t') → t' = t) ∧
    (∀ name, ((s.load name : Action SnapshotDocument).run t).2 = t ∧
      ((s.holds name : Action Bool).run t).2 = t) ∧
    ((s.names : Action (List String)).run t).2 = t := by
  refine ⟨fun name valid => ⟨?_, ?_, ?_⟩, fun name document => ⟨?_, ?_, ?_⟩,
    fun name => ⟨?_, ?_⟩, fun name => ⟨?_, ?_⟩, ?_⟩
  · exact Path.names_join (SnapshotName.isPlain_fileName valid) s.root
  · exact SnapshotName.stemAndExtension?_fileName (SnapshotName.ne_empty_of_isValid valid)
  · exact fun other place valid' => eq_of_locate_eq valid valid'
  · exact fun t' => effect_of_save
  · exact fun e t' failed => (effect_of_failed_save failed).1
  · exact exists_error_of_refused
  · exact fun t' => effect_of_delete
  · exact fun e t' => effect_of_failed_delete
  · rw [reads_load s name t]
  · rw [reads_holds s name t]
  · rw [reads_names s t]

end StorageLayout.DirectoryStore
