import StorageLayout.Proofs.Files.Actions
import StorageLayout.Proofs.Files.Trees
import StorageLayout.Proofs.Format.RoundTrip
import StorageLayout.Proofs.Store.Names

/-!
# What a directory of snapshots holds

A snapshot that has been saved is a file with the text of the document, in the directory to which
the root leads. While that file is there, the document is fetched from it and its name is listed.
-/
namespace StorageLayout.DirectoryStore

open FileTree (Action Reads)

variable {s : DirectoryStore} {t t' : FileTree} {name : String} {document : SnapshotDocument}
variable {number : Nat}

def fileOf (document : SnapshotDocument) : Node := .file document.fileText.toUTF8

theorem path_of_isValid (s : DirectoryStore) (valid : SnapshotName.isValid name) :
    s.path name = .ok (Path.join s.root (SnapshotName.fileName name)) := by
  simp [path, SnapshotName.check, valid, bind, Except.bind, pure, Except.pure]

theorem path_of_invalid (s : DirectoryStore) (invalid : SnapshotName.isValid name = false) :
    s.path name = .error (.invalidName name) := by
  simp [path, SnapshotName.check, invalid, bind, Except.bind]

theorem fromUTF8?_toUTF8 (text : String) : String.fromUTF8? text.toUTF8 = some text := by
  unfold String.fromUTF8?
  exact dif_pos text.isValidUTF8

/-- A valid document is found in its own text. -/
theorem ofFileText_fileText (valid : document.validate = .ok ()) (path : String) :
    SnapshotDocument.ofFileText path document.fileText = .ok document := by
  have decoded : SnapshotDocument.decode.run document.fileText = .ok document :=
    SnapshotDocument.recovers.run document (by simp [SnapshotDocument.fileText, Json.layouts])
  simp [SnapshotDocument.ofFileText, decoded, valid, Except.mapError, bind, Except.bind, pure,
    Except.pure]

section Reading

theorem reads_document (path : String) :
    Reads (SnapshotDocument.read path) fun t => (do
      let text ← (t.readText path).mapError (.file path)
      SnapshotDocument.ofFileText path text) :=
  (FileTree.reads_readText _ path).bind fun _ => FileTree.reads_ofExcept _

theorem reads_load (s : DirectoryStore) (name : String) :
    Reads (s.load name) fun t => (do
      let path ← s.path name
      let text ← (t.readText path).mapError (explain name path)
      SnapshotDocument.ofFileText path text) :=
  (FileTree.reads_ofExcept _).bind fun path =>
    (FileTree.reads_readText _ path).bind fun _ => FileTree.reads_ofExcept _

theorem reads_holds (s : DirectoryStore) (name : String) :
    Reads (s.holds name) fun t => (s.path name).map t.isFile := by
  intro t
  rw [holds, Stateful.run_ofExcept_bind]
  cases s.path name <;> rfl

/-- The names in the directory, of which there are none if it is not there. -/
def listed (s : DirectoryStore) (t : FileTree) : Except StoreError (List String) :=
  match t.entries s.root with
  | .ok names => .ok names
  | .error .missing => .ok []
  | .error failure => .error (.file s.root failure)

theorem reads_entries (s : DirectoryStore) : Reads s.entries s.listed := by
  intro t
  change (match t.entries s.root with
    | .ok names => pure (.ok names)
    | .error .missing => pure (.ok [])
    | .error failure => pure (.error (.file s.root failure)) :
      StateM FileTree (Except StoreError (List String))) t = _
  unfold listed
  rcases t.entries s.root with failure | names
  · cases failure <;> rfl
  · rfl

/-- The names of the snapshots in files of given names, in their order. -/
def keptNames (s : DirectoryStore) (t : FileTree) (fileNames : List String) : List String :=
  (fileNames.filter fun fileName => t.isFile (Path.join s.root fileName)).filterMap snapshotName?

theorem mem_keptNames_iff {fileNames : List String} :
    name ∈ s.keptNames t fileNames ↔ name ≠ "" ∧ SnapshotName.fileName name ∈ fileNames ∧
      t.isFile (Path.join s.root (SnapshotName.fileName name)) := by
  simp only [keptNames, List.mem_filterMap, List.mem_filter, snapshotName?_eq_some_iff]
  constructor
  · rintro ⟨file, present, rfl, some_name⟩
    exact ⟨some_name, present⟩
  · rintro ⟨some_name, present⟩
    exact ⟨_, present, rfl, some_name⟩

theorem nodup_keptNames {fileNames : List String} (distinct : fileNames.Nodup) :
    (s.keptNames t fileNames).Nodup := by
  refine List.Nodup.filterMap ?_ (distinct.filter _)
  intro file other name named named'
  rw [(eq_fileName_of_snapshotName? named).1, (eq_fileName_of_snapshotName? named').1]

/-- The names in a store are those of its files, in ascending order. -/
theorem reads_names (s : DirectoryStore) :
    Reads s.names fun t => (s.listed t).map fun fileNames =>
      (s.keptNames t fileNames).mergeSort (· ≤ ·) := by
  have asked (fileName : String) (t : FileTree) :
      (FileSystem.isFile (Path.join s.root fileName) : StateM FileTree Bool) t =
        (t.isFile (Path.join s.root fileName), t) := rfl
  intro t
  have ran := (reads_entries s).bind (fun fileNames => (FileTree.reads_filterM asked fileNames).bind
    fun files => FileTree.reads_pure ((files.filterMap snapshotName?).mergeSort (· ≤ ·))) t
  rw [names]
  refine ran.trans ?_
  cases s.listed t <;> rfl

theorem run_names {keys : List String} (entries : t.entries s.root = .ok keys) :
    (s.names : Action (List String)).run t =
      (.ok ((s.keptNames t keys).mergeSort (· ≤ ·)), t) := by
  rw [reads_names s t]
  simp [listed, entries, Except.map]

end Reading

theorem run_write (path : String) (document : SnapshotDocument) (t : FileTree) :
    (document.write path : Action Unit).run t =
      match t.writeText path document.fileText with
      | .ok written => (.ok (), written)
      | .error failure => (.error (.file path failure), t) := by
  change ((FileTree.updating (·.writeText path document.fileText) t).1.mapError
      (StoreError.file path), (FileTree.updating (·.writeText path document.fileText) t).2) = _
  simp only [FileTree.updating]
  cases t.writeText path document.fileText <;> rfl

/-- Before anything is saved, the name is checked, then the document. -/
theorem run_save (s : DirectoryStore) (name : String) (document : SnapshotDocument) (t : FileTree) :
    ((s.save name document : Action Unit).run t) =
      match s.path name, document.checkFor name with
      | .error e, _ => (.error e, t)
      | .ok _, .error e => (.error e, t)
      | .ok path, .ok _ =>
        match (FileSystem.makeDirectories s.root : StateM FileTree _) t with
        | (.error failure, after) => (.error (.file s.root failure), after)
        | (.ok _, after) =>
          match after.writeText path document.fileText with
          | .ok written => (.ok (), written)
          | .error failure => (.error (.file path failure), after) := by
  rw [save, Stateful.run_ofExcept_bind]
  cases s.path name with
  | error e => rfl
  | ok path =>
    dsimp only
    rw [Stateful.run_ofExcept_bind]
    cases document.checkFor name with
    | error e => rfl
    | ok _ =>
      dsimp only
      rw [Stateful.run_bind, Action.run_attempt]
      rcases (FileSystem.makeDirectories s.root : StateM FileTree _) t with ⟨_ | _, after⟩
      · rfl
      · exact run_write path document after

/-- A failure to delete leaves the tree as it was. -/
theorem run_delete (s : DirectoryStore) (name : String) (t : FileTree) :
    (s.delete name : Action Unit).run t =
      match s.path name with
      | .error e => (.error e, t)
      | .ok path =>
        match t.removeFile path with
        | .ok removed => (.ok (), removed)
        | .error failure => (.error (explain name path failure), t) := by
  rw [delete, Stateful.run_ofExcept_bind]
  cases s.path name with
  | error e => rfl
  | ok path =>
    change ((FileTree.updating (·.removeFile path) t).1.mapError (explain name path),
      (FileTree.updating (·.removeFile path) t).2) = _
    simp only [FileTree.updating]
    cases t.removeFile path <;> rfl

/-- The store keeps a valid document under a name: the file of the name has the document's text. -/
structure Keeps (s : DirectoryStore) (t : FileTree) (number : Nat) (name : String)
    (document : SnapshotDocument) : Prop where
  valid_name : SnapshotName.isValid name
  valid : document.validate = .ok ()
  reaches : t.Reaches s.root (SnapshotName.fileName name) number
  entry : t.entry? number (SnapshotName.fileName name) = some (fileOf document)

namespace Keeps

variable (keeps : s.Keeps t number name document)
include keeps

theorem readText :
    t.readText (Path.join s.root (SnapshotName.fileName name)) = .ok document.fileText := by
  rw [keeps.reaches.readText, keeps.entry]
  simp only [fileOf, fromUTF8?_toUTF8]

theorem load : (s.load name : Action SnapshotDocument).run t = (.ok document, t) := by
  rw [reads_load s name t, path_of_isValid s keeps.valid_name]
  simp [bind, Except.bind, keeps.readText, Except.mapError, ofFileText_fileText keeps.valid]

/-- The document can also be read from its file. -/
theorem read : (SnapshotDocument.read (Path.join s.root (SnapshotName.fileName name)) :
    Action SnapshotDocument).run t = (.ok document, t) := by
  rw [reads_document _ t]
  dsimp only
  rw [keeps.readText]
  exact Prod.ext (ofFileText_fileText keeps.valid _) rfl

theorem mem_keptNames : name ∈ s.keptNames t (t.directory number).nodes.keys := by
  refine mem_keptNames_iff.2 ⟨SnapshotName.ne_empty_of_isValid keeps.valid_name, ?_, ?_⟩
  · exact (Dictionary.mem_keys_iff _ _).2 ⟨_, keeps.entry⟩
  · simp only [keeps.reaches.isFile, keeps.entry, fileOf]

/-- The name of a document that is kept is listed, unless the root is empty: the empty path leads
nowhere. -/
theorem exists_names (some_root : s.root ≠ "") :
    ∃ names, (s.names : Action (List String)).run t = (.ok names, t) ∧ name ∈ names := by
  have checked := Path.check_of_check_join keeps.reaches.plain some_root keeps.reaches.checked
  have entries := FileTree.entries_eq_ok_iff.2 ⟨checked, number, keeps.reaches.found, rfl⟩
  refine ⟨_, run_names entries, ?_⟩
  rw [List.mem_mergeSort]
  exact keeps.mem_keptNames

end Keeps

theorem checkFor_eq_ok_iff (name : String) (document : SnapshotDocument) :
    document.checkFor name = .ok () ↔ document.validate = .ok () := by
  unfold SnapshotDocument.checkFor
  cases document.validate <;> simp [Except.mapError]

/-- A valid document is not refused as invalid. -/
theorem ne_integrity_of_save {e : StoreError} (valid : document.validate = .ok ())
    (failed : (s.save name document : Action Unit).run t = (.error e, t')) :
    ∀ reported cause, e ≠ .integrity reported cause := by
  rw [run_save, (checkFor_eq_ok_iff name document).2 valid] at failed
  cases valid_name : SnapshotName.isValid name with
  | false =>
    rw [path_of_invalid s valid_name] at failed
    obtain rfl := Except.error.inj (Prod.mk.inj failed).1
    exact nofun
  | true =>
    rw [path_of_isValid s valid_name] at failed
    dsimp only at failed
    split at failed
    · obtain rfl := Except.error.inj (Prod.mk.inj failed).1
      exact nofun
    · split at failed
      · cases failed
      · obtain rfl := Except.error.inj (Prod.mk.inj failed).1
        exact nofun

/-- How saving may end. Either the name or the document is refused, or the directories cannot all be
made or the file cannot be written, or the document is put into a file behind the root. -/
inductive SaveEnds (s : DirectoryStore) (t : FileTree) (name : String)
    (document : SnapshotDocument) : Except StoreError Unit → FileTree → Prop
  | refused {e : StoreError}
      (bad : SnapshotName.isValid name = false ∨ document.validate ≠ .ok ()) :
      SaveEnds s t name document (.error e) t
  | failed {e : StoreError} {after : FileTree} (valid_name : SnapshotName.isValid name)
      (valid : document.validate = .ok ())
      (left : ((FileSystem.makeDirectories s.root : StateM FileTree _) t).2 = after) :
      SaveEnds s t name document (.error e) after
  | written {after : FileTree} {number : Nat} (valid_name : SnapshotName.isValid name)
      (valid : document.validate = .ok ())
      (made : (FileSystem.makeDirectories s.root : StateM FileTree _) t = (.ok (), after))
      (reaches : after.Reaches s.root (SnapshotName.fileName name) number)
      (no_directory : ∀ inner, after.entry? number (SnapshotName.fileName name) ≠
        some (.directory inner)) :
      SaveEnds s t name document (.ok ())
        (after.put number (SnapshotName.fileName name) (fileOf document))

/-- Every run of a save ends in one of these ways. -/
theorem saveEnds {outcome : Except StoreError Unit}
    (ran : (s.save name document : Action Unit).run t = (outcome, t')) :
    s.SaveEnds t name document outcome t' := by
  rw [run_save] at ran
  cases valid_name : SnapshotName.isValid name with
  | false =>
    rw [path_of_invalid s valid_name] at ran
    obtain ⟨rfl, rfl⟩ := Prod.mk.inj ran
    exact .refused (.inl valid_name)
  | true =>
    rw [path_of_isValid s valid_name] at ran
    cases checked : document.checkFor name with
    | error e =>
      rw [checked] at ran
      obtain ⟨rfl, rfl⟩ := Prod.mk.inj ran
      refine .refused (.inr fun valid => ?_)
      rw [(checkFor_eq_ok_iff name document).2 valid] at checked
      cases checked
    | ok _ =>
      have valid := (checkFor_eq_ok_iff name document).1 checked
      rw [checked] at ran
      dsimp only at ran
      split at ran
      · next failure after made =>
        obtain ⟨rfl, rfl⟩ := Prod.mk.inj ran
        exact .failed valid_name valid (congrArg Prod.snd made)
      · next after made =>
        split at ran
        · next written wrote =>
          obtain ⟨rfl, rfl⟩ := Prod.mk.inj ran
          have plain := SnapshotName.isPlain_fileName valid_name
          obtain ⟨number, reaches, no_directory, rfl⟩ :=
            FileTree.exists_reaches_of_writeText plain wrote
          exact .written valid_name valid made reaches no_directory
        · obtain ⟨rfl, rfl⟩ := Prod.mk.inj ran
          exact .failed valid_name valid (congrArg Prod.snd made)

/-- What has been saved is kept. -/
theorem exists_keeps_of_save
    (saved : (s.save name document : Action Unit).run t = (.ok (), t')) :
    ∃ number, s.Keeps t' number name document := by
  cases saveEnds saved with
  | @written after number valid_name valid made reaches no_directory =>
    refine ⟨number, valid_name, valid,
      (FileTree.SameDirectories.put no_directory).reaches reaches, ?_⟩
    rw [FileTree.entry?_put, if_pos ⟨⟨rfl, reaches.lt_size⟩, rfl⟩]

end StorageLayout.DirectoryStore
