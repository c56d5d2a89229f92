import StorageLayout.Proofs.Store.Directory

/-!
# Which names are listed

A name is listed if the root holds a file that is named after it. Whether a document is kept under a
name is told from the same file, but only for names that may be used. So the two answers agree on
those names, and every other name that is listed is refused when it is asked for. The empty root
cannot be listed at all, and counts as missing, although files are found behind it.
-/
namespace StorageLayout.DirectoryStore

open FileTree (Action)

variable {s : DirectoryStore} {t t' : FileTree} {name : String} {names : List String}

/-- A list of names comes from the files of the root, or there is no root to list. -/
theorem listed_of_run_names (ran : (s.names : Action (List String)).run t = (.ok names, t')) :
    t' = t ∧ ∃ files, s.listed t = .ok files ∧
      names = (s.keptNames t files).mergeSort (· ≤ ·) := by
  rw [reads_names s t] at ran
  obtain ⟨answer, rfl⟩ := Prod.mk.inj ran
  refine ⟨rfl, ?_⟩
  dsimp only at answer
  cases listed : s.listed t with
  | error e =>
    rw [listed] at answer
    cases answer
  | ok files =>
    rw [listed] at answer
    exact ⟨files, rfl, (Except.ok.inj answer).symm⟩

theorem nodup_listed {files : List String} (listed : s.listed t = .ok files) : files.Nodup := by
  unfold DirectoryStore.listed at listed
  split at listed
  · next keys entries =>
    obtain ⟨-, number, -, rfl⟩ := FileTree.entries_eq_ok_iff.1 entries
    obtain rfl := Except.ok.inj listed
    exact (t.directory number).nodes.keys_distinct
  · obtain rfl := Except.ok.inj listed
    exact List.nodup_nil
  · cases listed

/-- A file that is found in the root is among those listed, if the root can be listed. -/
theorem mem_listed_of_isFile {files : List String} (some_root : s.root ≠ "")
    (listed : s.listed t = .ok files) {file : String} (plain : Path.IsPlain file)
    (there : t.isFile (Path.join s.root file)) : file ∈ files := by
  obtain ⟨content, found⟩ := (FileTree.isFile_iff t _).1 there
  obtain ⟨number, reaches, entry⟩ := FileTree.exists_reaches_of_find plain found
  have checked := Path.check_of_check_join plain some_root reaches.checked
  have entries := FileTree.entries_eq_ok_iff.2 ⟨checked, number, reaches.found, rfl⟩
  unfold DirectoryStore.listed at listed
  rw [entries] at listed
  obtain rfl := Except.ok.inj listed
  exact (Dictionary.mem_keys_iff _ _).2 ⟨_, entry⟩

theorem run_holds_of_isValid (valid : SnapshotName.isValid name) :
    (s.holds name : Action Bool).run t =
      (.ok (t.isFile (Path.join s.root (SnapshotName.fileName name))), t) := by
  rw [reads_holds s name t, path_of_isValid s valid]
  rfl

/-- A name that may not be used is refused, whatever the root holds. -/
theorem run_of_invalid (invalid : SnapshotName.isValid name = false) :
    (s.holds name : Action Bool).run t = (.error (.invalidName name), t) ∧
    (s.load name : Action SnapshotDocument).run t = (.error (.invalidName name), t) ∧
    (s.delete name : Action Unit).run t = (.error (.invalidName name), t) := by
  rw [reads_holds s name t, reads_load s name t, run_delete, path_of_invalid s invalid]
  exact ⟨rfl, rfl, rfl⟩

/-- Names are listed in strictly ascending order. A name that may be used is listed exactly if a
document is kept under it, as long as the root is not the empty path. A name that may not be used is
refused even when it is listed. -/
theorem listed_names_are_held_or_refused
    (ran : (s.names : Action (List String)).run t = (.ok names, t')) :
    names.Pairwise (· < ·) ∧
    (s.root ≠ "" → ∀ name, SnapshotName.isValid name →
      (name ∈ names ↔ (s.holds name : Action Bool).run t = (.ok true, t))) ∧
    ∀ name ∈ names, SnapshotName.isValid name = false →
      (s.holds name : Action Bool).run t = (.error (.invalidName name), t) ∧
      (s.load name : Action SnapshotDocument).run t = (.error (.invalidName name), t) ∧
      (s.delete name : Action Unit).run t = (.error (.invalidName name), t) := by
  obtain ⟨-, files, listed, rfl⟩ := listed_of_run_names ran
  refine ⟨pairwise_lt_mergeSort (nodup_keptNames (nodup_listed listed)), ?_, ?_⟩
  · intro some_root name valid
    rw [List.mem_mergeSort, mem_keptNames_iff, run_holds_of_isValid valid]
    constructor
    · rintro ⟨-, -, there⟩
      rw [there]
    · intro held
      have there := Except.ok.inj (Prod.mk.inj held).1
      have plain := SnapshotName.isPlain_fileName valid
      exact ⟨SnapshotName.ne_empty_of_isValid valid,
        mem_listed_of_isFile some_root listed plain there, there⟩
  · exact fun name _ invalid => run_of_invalid invalid

/-- A tree with a document in a hidden file and one in a file behind the empty path. -/
def strayTree : FileTree where
  directories := #[
    { nodes := ⟨[("store", .directory 1), ("v1.json", fileOf ⟨[]⟩)], by decide⟩ },
    { nodes := ⟨[("v2.json", fileOf ⟨[]⟩), (".hid.json", fileOf ⟨[]⟩)], by decide⟩ }]

theorem run_names_strayTree :
    ((⟨"store"⟩ : DirectoryStore).names : Action (List String)).run strayTree =
      (.ok [".hid", "v2"], strayTree) := by
  have kept : (⟨"store"⟩ : DirectoryStore).keptNames strayTree ["v2.json", ".hid.json"] =
      ["v2", ".hid"] := by
    decide +kernel
  have sorted : [".hid", "v2"].mergeSort (· ≤ ·) = [".hid", "v2"] :=
    List.mergeSort_of_pairwise (by decide)
  have entries : strayTree.entries (⟨"store"⟩ : DirectoryStore).root =
      .ok ["v2.json", ".hid.json"] := rfl
  rw [run_names entries, kept, mergeSort_eq_of_perm (List.Perm.swap ".hid" "v2" []), sorted]

/-- Of a hidden name and one that may be used, both are listed and one is held. -/
theorem strayTree_names_are_held_or_refused :
    ((⟨"store"⟩ : DirectoryStore).names : Action (List String)).run strayTree =
      (.ok [".hid", "v2"], strayTree) ∧
    ((⟨"store"⟩ : DirectoryStore).holds "v2" : Action Bool).run strayTree =
      (.ok true, strayTree) ∧
    ((⟨"store"⟩ : DirectoryStore).load ".hid" : Action SnapshotDocument).run strayTree =
      (.error (.invalidName ".hid"), strayTree) := by
  obtain ⟨-, held_iff, refused⟩ := listed_names_are_held_or_refused run_names_strayTree
  exact ⟨run_names_strayTree, (held_iff (by decide) "v2" (by decide)).1 (by simp),
    (refused ".hid" (by simp) (by decide)).2.1⟩

/-- A hidden name is listed and then refused. Behind the empty root a document is kept under a name
that is not listed. -/
theorem hidden_name_is_listed_but_refused :
    (((⟨"store"⟩ : DirectoryStore).names : Action (List String)).run strayTree =
        (.ok [".hid", "v2"], strayTree) ∧
      ((⟨"store"⟩ : DirectoryStore).holds ".hid" : Action Bool).run strayTree =
        (.error (.invalidName ".hid"), strayTree)) ∧
    ((⟨""⟩ : DirectoryStore).names : Action (List String)).run strayTree = (.ok [], strayTree) ∧
    ((⟨""⟩ : DirectoryStore).holds "v1" : Action Bool).run strayTree = (.ok true, strayTree) := by
  refine ⟨⟨run_names_strayTree, (run_of_invalid (by decide)).1⟩, ?_, ?_⟩
  · rw [reads_names _ strayTree]
    have none_listed : (⟨""⟩ : DirectoryStore).listed strayTree = .ok [] := rfl
    simp [none_listed, Except.map, keptNames]
  · rw [run_holds_of_isValid (by decide)]
    rfl

end StorageLayout.DirectoryStore
