import StorageLayout.Proofs.Catalog
import StorageLayout.Proofs.Store.Directory
import StorageLayout.Store.Memory

/-!
# Stores in memory and on disk are interchangeable

A directory mirrors a store in memory while the files of snapshots in it are those of the documents
that are kept under their names. Every request is then answered alike and leaves a directory that
mirrors the store again. A directory that is still to be made counts as empty, and the first
document that is saved makes it.
-/
namespace StorageLayout

/-- The name that a request is about. -/
def StoreRequest.name? : StoreRequest → Option String
  | .save name _ | .load name | .holds name | .delete name => some name
  | .names => none

/-- The answers to requests that are made one after another. -/
def MemoryStore.answers (kept : MemoryStore) :
    List StoreRequest → List (Except StoreError StoreAnswer)
  | [] => []
  | request :: rest => (kept.perform request).1 :: (kept.perform request).2.answers rest

namespace DirectoryStore

open FileTree (Action)

/-- The answers to requests that are made one after another. -/
def answers (s : DirectoryStore) (t : FileTree) :
    List StoreRequest → List (Except StoreError StoreAnswer)
  | [] => []
  | request :: rest =>
    ((s.perform request : Action StoreAnswer).run t).1 ::
      s.answers ((s.perform request : Action StoreAnswer).run t).2 rest

/-- The file of the name that a request is about is within the limits of the system. A name that is
refused has no file. -/
def Admits (s : DirectoryStore) (request : StoreRequest) : Prop :=
  ∀ name, request.name? = some name → SnapshotName.isValid name →
    (SnapshotName.fileName name).utf8ByteSize ≤ Path.maxNameSize ∧
      (Path.join s.root (SnapshotName.fileName name)).utf8ByteSize ≤ Path.maxSize

/-- The root is a directory in which nothing is named like the file of a snapshot. -/
def HoldsNone (s : DirectoryStore) (t : FileTree) : Prop :=
  ∃ keys, t.entries s.root = .ok keys ∧ ∀ file ∈ keys, snapshotName? file = none

/-- The root is not there, but can be made and then holds no snapshots. -/
structure Unmade (s : DirectoryStore) (t made : FileTree) : Prop where
  missing : t.entries s.root = .error .missing
  makes : (FileSystem.makeDirectories s.root : StateM FileTree _) t = (.ok (), made)
  holds_none : s.HoldsNone made

/-- No snapshot is there yet, and perhaps no root either. -/
def Fresh (s : DirectoryStore) (t : FileTree) : Prop := s.HoldsNone t ∨ ∃ made, s.Unmade t made

/-- The files of snapshots in the root are those of the documents that a store in memory keeps. -/
structure Mirrors (s : DirectoryStore) (t : FileTree) (number : Nat) (kept : MemoryStore) :
    Prop where
  checked : Path.check s.root = .ok ()
  found : t.directoryOf (Path.names s.root) = .ok number
  filed : ∀ name, name ≠ "" → t.entry? number (SnapshotName.fileName name) =
    (kept.documents.find? name).map fileOf
  sound : ∀ name document, kept.documents.find? name = some document →
    SnapshotName.isValid name ∧ document.validate = .ok () ∧ s.Admits (.load name)

variable {s : DirectoryStore} {t t' : FileTree} {number : Nat} {kept : MemoryStore}
variable {name : String} {document : SnapshotDocument} {request : StoreRequest}

theorem checkName_of_admits (admits : s.Admits request) (about : request.name? = some name)
    (valid : SnapshotName.isValid name) :
    Path.checkName (SnapshotName.fileName name) = .ok () := by
  rw [Path.checkName, if_neg (Nat.not_lt.2 (admits name about valid).1)]

theorem check_of_admits (checked : Path.check s.root = .ok ()) (admits : s.Admits request)
    (about : request.name? = some name) (valid : SnapshotName.isValid name) :
    Path.check (Path.join s.root (SnapshotName.fileName name)) = .ok () :=
  (Path.check_join_iff (SnapshotName.isPlain_fileName valid) s.root).2
    ⟨((Path.check_eq_ok_iff s.root).1 checked).1, (admits name about valid).2⟩

/-- What can be read in a tree is what a store in memory keeps. -/
structure Shows (s : DirectoryStore) (t : FileTree) (kept : MemoryStore) : Prop where
  text : ∀ request name, s.Admits request → request.name? = some name →
    SnapshotName.isValid name →
      t.readText (Path.join s.root (SnapshotName.fileName name)) =
        match kept.documents.find? name with
        | some document => .ok document.fileText
        | none => .error .missing
  isFile : ∀ request name, s.Admits request → request.name? = some name →
    SnapshotName.isValid name →
      t.isFile (Path.join s.root (SnapshotName.fileName name)) = kept.documents.contains name
  names : (s.names : Action (List String)).run t = (.ok kept.documents.names, t)
  valid : ∀ name document, kept.documents.find? name = some document → document.validate = .ok ()

namespace Shows

variable (shows_kept : s.Shows t kept)
include shows_kept

theorem load (admits : s.Admits (.load name)) :
    (s.perform (.load name) : Action StoreAnswer).run t =
      ((kept.perform (.load name)).1, t) := by
  rw [perform, Stateful.run_bind, reads_load s name t, MemoryStore.perform, MemoryStore.load,
    SnapshotName.check]
  cases valid : SnapshotName.isValid name with
  | false =>
    rw [path_of_invalid s valid]
    rfl
  | true =>
    have text := shows_kept.text _ name admits rfl valid
    rw [path_of_isValid s valid]
    cases filed : kept.documents.find? name with
    | none =>
      rw [filed] at text
      simp only [bind, Except.bind, text]
      rfl
    | some document =>
      rw [filed] at text
      simp only [bind, Except.bind, text, Except.mapError,
        ofFileText_fileText (shows_kept.valid name document filed)]
      rfl

theorem holds (admits : s.Admits (.holds name)) :
    (s.perform (.holds name) : Action StoreAnswer).run t =
      ((kept.perform (.holds name)).1, t) := by
  rw [perform, Stateful.run_bind, reads_holds s name t, MemoryStore.perform, MemoryStore.holds,
    SnapshotName.check]
  cases valid : SnapshotName.isValid name with
  | false =>
    rw [path_of_invalid s valid]
    rfl
  | true =>
    rw [path_of_isValid s valid]
    simp only [Except.map, shows_kept.isFile _ name admits rfl valid]
    rfl

theorem list :
    (s.perform .names : Action StoreAnswer).run t = ((kept.perform .names).1, t) := by
  rw [perform, Stateful.run_bind, shows_kept.names]
  rfl

end Shows

/-- Nothing is deleted under a name that is refused or has no file. -/
theorem delete_of_missing (absent : kept.documents.find? name = none)
    (missing : SnapshotName.isValid name →
      t.removeFile (Path.join s.root (SnapshotName.fileName name)) = .error .missing) :
    (s.perform (.delete name) : Action StoreAnswer).run t =
        ((kept.perform (.delete name)).1, t) ∧ (kept.perform (.delete name)).2 = kept := by
  rw [perform, Stateful.run_bind, run_delete, MemoryStore.perform, MemoryStore.delete,
    SnapshotName.check, Catalog.contains, absent]
  cases valid : SnapshotName.isValid name with
  | false =>
    rw [path_of_invalid s valid]
    exact ⟨rfl, rfl⟩
  | true =>
    rw [path_of_isValid s valid]
    simp only [missing valid]
    exact ⟨rfl, rfl⟩

namespace Mirrors

theorem reaches (mirrors : s.Mirrors t number kept) (admits : s.Admits request)
    (about : request.name? = some name) (valid : SnapshotName.isValid name) :
    t.Reaches s.root (SnapshotName.fileName name) number where
  plain := SnapshotName.isPlain_fileName valid
  checked := check_of_admits mirrors.checked admits about valid
  fits := checkName_of_admits admits about valid
  found := mirrors.found

theorem entry (mirrors : s.Mirrors t number kept) (valid : SnapshotName.isValid name) :
    t.entry? number (SnapshotName.fileName name) = (kept.documents.find? name).map fileOf :=
  mirrors.filed name (SnapshotName.ne_empty_of_isValid valid)

theorem no_directory (mirrors : s.Mirrors t number kept) (valid : SnapshotName.isValid name)
    (inner : Nat) : t.entry? number (SnapshotName.fileName name) ≠ some (.directory inner) := by
  rw [mirrors.entry valid]
  cases kept.documents.find? name <;> simp [fileOf]

theorem keeps (mirrors : s.Mirrors t number kept)
    (filed : kept.documents.find? name = some document) : s.Keeps t number name document := by
  obtain ⟨valid_name, valid, admits⟩ := mirrors.sound name document filed
  refine ⟨valid_name, valid, mirrors.reaches admits rfl valid_name, ?_⟩
  rw [mirrors.entry valid_name, filed]
  rfl

/-- A change of the file of a name goes with a change of what is filed under this name. -/
theorem change (mirrors : s.Mirrors t number kept) (admits : s.Admits request)
    (about : request.name? = some name) (valid_name : SnapshotName.isValid name)
    (held : Option SnapshotDocument) {change : Dictionary Node → Dictionary Node}
    {documents : Catalog SnapshotDocument}
    (only : FileTree.ChangesOnly (SnapshotName.fileName name) (held.map fileOf) change)
    (filed : ∀ other, documents.find? other =
      if other = name then held else kept.documents.find? other)
    (valid : ∀ document, held = some document → document.validate = .ok ()) :
    s.Mirrors (t.modify number change) number ⟨documents⟩ where
  checked := mirrors.checked
  found := by
    have none_made (inner : Nat) : held.map fileOf ≠ some (.directory inner) := by
      cases held <;> simp [fileOf]
    exact (FileTree.SameDirectories.modify only (mirrors.no_directory valid_name)
      none_made).directoryOf mirrors.found
  filed other some_other := by
    have inside := (mirrors.reaches admits about valid_name).lt_size
    rw [FileTree.entry?_modify only, filed]
    by_cases same : other = name
    · simp [same, inside]
    · have other_file : SnapshotName.fileName other ≠ SnapshotName.fileName name :=
        SnapshotName.fileName_injective.ne same
      simp [same, other_file, mirrors.filed other some_other]
  sound other document found := by
    rw [filed] at found
    split at found
    · next same =>
      obtain rfl := same
      refine ⟨valid_name, valid document found, fun n named => ?_⟩
      obtain rfl := Option.some.inj named
      exact admits other about
    · exact mirrors.sound other document found

/-- A file with the text of a document goes with filing the document. -/
theorem insert (mirrors : s.Mirrors t number kept) (admits : s.Admits request)
    (about : request.name? = some name) (valid_name : SnapshotName.isValid name)
    (valid : document.validate = .ok ()) :
    s.Mirrors (t.put number (SnapshotName.fileName name) (fileOf document)) number
      ⟨kept.documents.insert name document⟩ := by
  refine mirrors.change admits about valid_name (some document)
    (FileTree.changesOnly_insert _ _) (fun other => Catalog.find?_insert _ _ other _) ?_
  intro inserted same
  rwa [← Option.some.inj same]

/-- Removing the file goes with erasing the name. -/
theorem erase (mirrors : s.Mirrors t number kept) (admits : s.Admits request)
    (about : request.name? = some name) (valid : SnapshotName.isValid name) :
    s.Mirrors (t.remove number (SnapshotName.fileName name)) number
      ⟨kept.documents.erase name⟩ := by
  refine mirrors.change admits about valid none (FileTree.changesOnly_erase _)
    (Catalog.find?_erase _ _) ?_
  intro document absent
  cases absent

theorem save (mirrors : s.Mirrors t number kept) (admits : s.Admits (.save name document)) :
    ∃ t', (s.perform (.save name document) : Action StoreAnswer).run t =
        ((kept.perform (.save name document)).1, t') ∧
      s.Mirrors t' number (kept.perform (.save name document)).2 := by
  rw [perform, Stateful.run_bind, run_save, MemoryStore.perform, MemoryStore.save,
    SnapshotName.check]
  cases valid_name : SnapshotName.isValid name with
  | false =>
    rw [path_of_invalid s valid_name]
    exact ⟨t, rfl, mirrors⟩
  | true =>
    rw [path_of_isValid s valid_name]
    cases checked : document.checkFor name with
    | error e => exact ⟨t, rfl, mirrors⟩
    | ok _ =>
      have valid := (checkFor_eq_ok_iff name document).1 checked
      have written : t.writeText (Path.join s.root (SnapshotName.fileName name))
          document.fileText =
            .ok (t.put number (SnapshotName.fileName name) (fileOf document)) := by
        rw [(mirrors.reaches admits rfl valid_name).writeText]
        split
        · next directory => exact absurd directory (mirrors.no_directory valid_name _)
        · rfl
      simp only [FileTree.makeDirectories_of_found mirrors.checked mirrors.found, written]
      exact ⟨_, rfl, mirrors.insert admits rfl valid_name valid⟩

theorem delete (mirrors : s.Mirrors t number kept) (admits : s.Admits (.delete name)) :
    ∃ t', (s.perform (.delete name) : Action StoreAnswer).run t =
        ((kept.perform (.delete name)).1, t') ∧
      s.Mirrors t' number (kept.perform (.delete name)).2 := by
  have removed (valid : SnapshotName.isValid name) :=
    (mirrors.reaches admits rfl valid).removeFile
  cases filed : kept.documents.find? name with
  | none =>
    obtain ⟨ran, unchanged⟩ := delete_of_missing filed fun valid => by
      rw [removed valid, mirrors.entry valid, filed]
      rfl
    rw [unchanged]
    exact ⟨t, ran, mirrors⟩
  | some document =>
    have valid := (mirrors.keeps filed).valid_name
    rw [perform, Stateful.run_bind, run_delete, MemoryStore.perform, MemoryStore.delete,
      SnapshotName.check, Catalog.contains, filed, path_of_isValid s valid, valid]
    dsimp only
    rw [removed valid, mirrors.entry valid, filed]
    exact ⟨_, rfl, mirrors.erase admits rfl valid⟩

/-- The names that are listed are those of the catalog, in the same order. -/
theorem names (mirrors : s.Mirrors t number kept) :
    (s.names : Action (List String)).run t = (.ok kept.documents.names, t) := by
  have entries := FileTree.entries_eq_ok_iff.2 ⟨mirrors.checked, number, mirrors.found, rfl⟩
  have listed_iff (name : String) :
      name ∈ s.keptNames t (t.directory number).nodes.keys ↔ name ∈ kept.documents.names := by
    rw [Catalog.mem_names_iff]
    constructor
    · intro listed
      obtain ⟨some_name, listed, -⟩ := mem_keptNames_iff.1 listed
      obtain ⟨node, present⟩ := (Dictionary.mem_keys_iff _ _).1 listed
      have filed := mirrors.filed name some_name
      unfold FileTree.entry? at filed
      rw [present] at filed
      cases kept_document : kept.documents.find? name with
      | none =>
        rw [kept_document] at filed
        cases filed
      | some document => exact ⟨document, rfl⟩
    · rintro ⟨document, filed⟩
      exact (mirrors.keeps filed).mem_keptNames
  have distinct : (s.keptNames t (t.directory number).nodes.keys).Nodup :=
    nodup_keptNames (t.directory number).nodes.keys_distinct
  rw [run_names entries, Catalog.mergeSort_eq_names distinct listed_iff]

theorem shows_kept (mirrors : s.Mirrors t number kept) : s.Shows t kept where
  text request name admits about valid := by
    rw [(mirrors.reaches admits about valid).readText, mirrors.entry valid]
    cases kept.documents.find? name with
    | none => rfl
    | some document => simp only [Option.map_some, fileOf, fromUTF8?_toUTF8]
  isFile request name admits about valid := by
    rw [(mirrors.reaches admits about valid).isFile, mirrors.entry valid, Catalog.contains]
    cases kept.documents.find? name <;> rfl
  names := mirrors.names
  valid name document filed := (mirrors.sound name document filed).2.1

/-- A request is answered alike and leaves a directory that mirrors the store again. -/
theorem perform (mirrors : s.Mirrors t number kept) (admits : s.Admits request) :
    ∃ t', (s.perform request : Action StoreAnswer).run t = ((kept.perform request).1, t') ∧
      s.Mirrors t' number (kept.perform request).2 := by
  cases request with
  | save name document => exact mirrors.save admits
  | load name => exact ⟨t, mirrors.shows_kept.load admits, mirrors⟩
  | holds name => exact ⟨t, mirrors.shows_kept.holds admits, mirrors⟩
  | names => exact ⟨t, mirrors.shows_kept.list, mirrors⟩
  | delete name => exact mirrors.delete admits

end Mirrors

theorem HoldsNone.mirrors (none_held : s.HoldsNone t) : ∃ number, s.Mirrors t number {} := by
  obtain ⟨keys, entries, others⟩ := none_held
  obtain ⟨checked, number, found, rfl⟩ := FileTree.entries_eq_ok_iff.1 entries
  refine ⟨number, checked, found, fun name some_name => ?_, fun _ _ filed => nomatch filed⟩
  cases entry : t.entry? number (SnapshotName.fileName name) with
  | none => rfl
  | some node =>
    have listed := (Dictionary.mem_keys_iff _ _).2 ⟨node, entry⟩
    have other := others _ listed
    rw [snapshotName?_fileName some_name] at other
    cases other

namespace Unmade

variable {made : FileTree} (unmade : s.Unmade t made)
include unmade

theorem checked : Path.check s.root = .ok () := by
  obtain ⟨keys, entries, -⟩ := unmade.holds_none
  exact (FileTree.entries_eq_ok_iff.1 entries).1

/-- Nothing leads to the root. -/
theorem nowhere : t.directoryOf (Path.names s.root) = .error .missing := by
  have missing := unmade.missing
  rw [FileTree.entries_eq, unmade.checked] at missing
  cases found : t.directoryOf (Path.names s.root) with
  | ok number =>
    rw [found] at missing
    cases missing
  | error e =>
    rw [found] at missing
    exact congrArg Except.error (Except.error.inj missing)

theorem check (admits : s.Admits request) (about : request.name? = some name)
    (valid : SnapshotName.isValid name) :
    Path.check (Path.join s.root (SnapshotName.fileName name)) = .ok () :=
  check_of_admits unmade.checked admits about valid

theorem readText (admits : s.Admits request) (about : request.name? = some name)
    (valid : SnapshotName.isValid name) :
    t.readText (Path.join s.root (SnapshotName.fileName name)) = .error .missing := by
  rw [FileTree.readText, FileTree.readBytes, FileTree.find,
    FileTree.locate_join (SnapshotName.isPlain_fileName valid), unmade.check admits about valid,
    unmade.nowhere]
  rfl

theorem isFile (admits : s.Admits request) (about : request.name? = some name)
    (valid : SnapshotName.isValid name) :
    t.isFile (Path.join s.root (SnapshotName.fileName name)) = false := by
  rw [FileTree.isFile, FileTree.find, FileTree.locate_join (SnapshotName.isPlain_fileName valid),
    unmade.check admits about valid, unmade.nowhere]
  rfl

theorem removeFile (admits : s.Admits request) (about : request.name? = some name)
    (valid : SnapshotName.isValid name) :
    t.removeFile (Path.join s.root (SnapshotName.fileName name)) = .error .missing := by
  rw [FileTree.removeFile, FileTree.locateEntry?_join (SnapshotName.isPlain_fileName valid),
    unmade.check admits about valid, unmade.nowhere]
  rfl

/-- The first document that is saved is saved as if the root had been there all along. -/
theorem run_save_eq (valid_name : SnapshotName.isValid name)
    (valid : document.validate = .ok ()) :
    (s.save name document : Action Unit).run t = (s.save name document : Action Unit).run made := by
  obtain ⟨number, mirrors⟩ := unmade.holds_none.mirrors
  rw [run_save, run_save, path_of_isValid s valid_name, (checkFor_eq_ok_iff name document).2 valid]
  simp only [unmade.makes, FileTree.makeDirectories_of_found mirrors.checked mirrors.found]

end Unmade

/-- A directory mirrors a store in memory, or is still to be made while the store is empty. -/
def Follows (s : DirectoryStore) (t : FileTree) (kept : MemoryStore) : Prop :=
  (∃ number, s.Mirrors t number kept) ∨ ∃ made, s.Unmade t made ∧ kept = {}

namespace Unmade

variable {made : FileTree} (unmade : s.Unmade t made)
include unmade

theorem follows : s.Follows t {} := .inr ⟨made, unmade, rfl⟩

theorem save (admits : s.Admits (.save name document)) :
    ∃ t', (s.perform (.save name document) : Action StoreAnswer).run t =
        ((MemoryStore.perform {} (.save name document)).1, t') ∧
      s.Follows t' (MemoryStore.perform {} (.save name document)).2 := by
  obtain ⟨number, mirrors⟩ := unmade.holds_none.mirrors
  cases valid_name : SnapshotName.isValid name with
  | false =>
    rw [perform, Stateful.run_bind, run_save, MemoryStore.perform, MemoryStore.save,
      SnapshotName.check, path_of_invalid s valid_name, valid_name]
    exact ⟨t, rfl, unmade.follows⟩
  | true =>
    cases checked : document.checkFor name with
    | error e =>
      rw [perform, Stateful.run_bind, run_save, MemoryStore.perform, MemoryStore.save,
        SnapshotName.check, path_of_isValid s valid_name, valid_name, checked]
      exact ⟨t, rfl, unmade.follows⟩
    | ok _ =>
      have valid := (checkFor_eq_ok_iff name document).1 checked
      obtain ⟨t', ran, mirrors'⟩ := mirrors.save admits
      refine ⟨t', ?_, .inl ⟨number, mirrors'⟩⟩
      rw [← ran, perform, Stateful.run_bind, Stateful.run_bind, unmade.run_save_eq valid_name valid]

theorem shows_nothing : s.Shows t {} where
  text request name admits about valid := unmade.readText admits about valid
  isFile request name admits about valid := unmade.isFile admits about valid
  names := by
    have none_listed : s.listed t = .ok [] := by
      unfold listed
      rw [unmade.missing]
    rw [reads_names s t]
    simp only [none_listed, Except.map, keptNames, List.filter_nil, List.filterMap_nil,
      List.mergeSort_nil]
    rfl
  valid name document filed := nomatch filed

/-- A request to a root that is not there is answered like one to an empty store. -/
theorem perform (admits : s.Admits request) :
    ∃ t', (s.perform request : Action StoreAnswer).run t =
        ((MemoryStore.perform {} request).1, t') ∧
      s.Follows t' (MemoryStore.perform {} request).2 := by
  cases request with
  | save name document => exact unmade.save admits
  | load name => exact ⟨t, unmade.shows_nothing.load admits, unmade.follows⟩
  | holds name => exact ⟨t, unmade.shows_nothing.holds admits, unmade.follows⟩
  | names => exact ⟨t, unmade.shows_nothing.list, unmade.follows⟩
  | delete name =>
    have nothing : ({} : MemoryStore).documents.find? name = none := rfl
    obtain ⟨ran, unchanged⟩ := delete_of_missing nothing (unmade.removeFile admits rfl)
    rw [unchanged]
    exact ⟨t, ran, unmade.follows⟩

end Unmade

namespace Follows

/-- A request is answered alike and leaves a directory that follows the store in memory. -/
theorem perform (follows : s.Follows t kept) (admits : s.Admits request) :
    ∃ t', (s.perform request : Action StoreAnswer).run t = ((kept.perform request).1, t') ∧
      s.Follows t' (kept.perform request).2 := by
  rcases follows with ⟨number, mirrors⟩ | ⟨made, unmade, rfl⟩
  · obtain ⟨t', ran, mirrors'⟩ := mirrors.perform admits
    exact ⟨t', ran, .inl ⟨number, mirrors'⟩⟩
  · exact unmade.perform admits

theorem answers (follows : s.Follows t kept) {requests : List StoreRequest}
    (admitted : ∀ request ∈ requests, s.Admits request) :
    s.answers t requests = kept.answers requests := by
  induction requests generalizing t kept with
  | nil => rfl
  | cons request rest ih =>
    rw [List.forall_mem_cons] at admitted
    obtain ⟨t', ran, follows'⟩ := follows.perform admitted.1
    rw [DirectoryStore.answers, MemoryStore.answers, ran, ih follows' admitted.2]

end Follows

theorem Fresh.follows (fresh : s.Fresh t) : s.Follows t {} := by
  rcases fresh with none_held | ⟨made, unmade⟩
  · exact .inl none_held.mirrors
  · exact unmade.follows

/-- A directory without snapshots and an empty store in memory give the same answers to the same
requests: the same documents and names, or the same errors. -/
theorem answers_eq_of_fresh (fresh : s.Fresh t) {requests : List StoreRequest}
    (admitted : ∀ request ∈ requests, s.Admits request) :
    s.answers t requests = MemoryStore.answers {} requests :=
  fresh.follows.answers admitted

def sampleDocument : SnapshotDocument where
  contracts := [
    { name := "Vault"
      stateVariables := [⟨"owner", ⟨0⟩, 0, "t_address", "0a1b2c3d4e5f"⟩,
        ⟨"open", ⟨0⟩, 20, "t_bool", "98ca1dd09b72"⟩]
      types := {
        entries := [("t_bool", ⟨.inplace, "bool", "1", none, none, none, none⟩),
          ("t_address", ⟨.inplace, "address", "20", none, none, none, none⟩)]
        keys_distinct := by decide } },
    ⟨"Base", [], .empty⟩]

/-- A document with a variable whose type is not in the dictionary. -/
def untypedDocument : SnapshotDocument :=
  ⟨[⟨"Vault", [⟨"owner", ⟨0⟩, 0, "t_address", "0a1b2c3d4e5f"⟩], .empty⟩]⟩

/-- Requests about names that are kept, not kept, and refused, and about documents with and without
faults. -/
def sampleRequests : List StoreRequest :=
  [.names, .save "v2" sampleDocument, .save "../v1" sampleDocument, .save "v2" untypedDocument,
    .save "v1" ⟨[]⟩, .load "v3", .names, .load "v2", .save "v2" ⟨[]⟩, .load "v2", .delete "v2",
    .holds "v2", .delete "v2"]

/-- In a directory that is still to be made, the requests are answered as they are in memory. -/
theorem answers_eq_in_new_directory :
    (⟨"store"⟩ : DirectoryStore).Fresh .empty ∧
    (∀ request ∈ sampleRequests, (⟨"store"⟩ : DirectoryStore).Admits request) ∧
    (⟨"store"⟩ : DirectoryStore).answers .empty sampleRequests =
      [.ok (.names []), .ok .done, .error (.invalidName "../v1"),
        .error (.integrity "v2" (.typeNotFound "Vault" "t_address")), .ok .done,
        .error (.notFound "v3"), .ok (.names ["v1", "v2"]), .ok (.document sampleDocument),
        .ok .done, .ok (.document ⟨[]⟩), .ok .done, .ok (.truth false),
        .error (.notFound "v2")] := by
  have unmade : (⟨"store"⟩ : DirectoryStore).Unmade .empty
      (FileTree.empty.putDirectory 0 "store") := by
    refine ⟨rfl, rfl, [], rfl, by simp⟩
  have fresh : (⟨"store"⟩ : DirectoryStore).Fresh .empty := .inr ⟨_, unmade⟩
  have admitted : ∀ request ∈ sampleRequests, (⟨"store"⟩ : DirectoryStore).Admits request := by
    intro request listed name about
    have short : ∀ request ∈ sampleRequests, ∀ name ∈ request.name?,
        SnapshotName.isValid name → (SnapshotName.fileName name).utf8ByteSize ≤ 255 ∧
          (Path.join "store" (SnapshotName.fileName name)).utf8ByteSize ≤ 4095 := by
      decide +kernel
    exact short request listed name about
  exact ⟨fresh, admitted, (answers_eq_of_fresh fresh admitted).trans rfl⟩

/-- Nothing is saved in a file whose path is too long. -/
theorem not_done_of_long {changed : MemoryStore}
    (long : Path.maxSize < (Path.join s.root (SnapshotName.fileName name)).utf8ByteSize)
    (kept_in_memory : kept.perform (.save name document) = (.ok .done, changed)) :
    s.answers t [.save name document] ≠ kept.answers [.save name document] := by
  intro same
  have done := (List.cons.inj same).1
  rw [kept_in_memory, perform, Stateful.run_bind] at done
  cases ran : (s.save name document : Action Unit).run t with
  | mk outcome after =>
    rw [ran] at done
    cases outcome with
    | error e => cases done
    | ok _ =>
      obtain ⟨number, keeps⟩ := exists_keeps_of_save ran
      have short := (Path.check_join_iff keeps.reaches.plain s.root).1 keeps.reaches.checked
      omega

def slashed (count : Nat) : String := "a" ++ String.ofList (List.replicate count '/')

theorem size_slashed (count : Nat) : (slashed count).utf8ByteSize = count + 1 := by
  have slashes : (String.ofList (List.replicate count '/')).utf8ByteSize = count := by
    induction count with
    | zero => rfl
    | succ count ih =>
      have one : "/".utf8ByteSize = 1 := rfl
      simp [List.replicate_succ, ih, one, Nat.add_comm]
  have one : "a".utf8ByteSize = 1 := rfl
  rw [slashed, String.utf8ByteSize_append, slashes, one, Nat.add_comm]

theorem names_slashed (count : Nat) : Path.names (slashed (count + 1)) = ["a"] := by
  have split : Text.splitAt '/' (List.replicate count '/') = List.replicate (count + 1) [] := by
    induction count with
    | zero => rfl
    | succ count ih => simp [List.replicate_succ, Text.splitAt, ih]
  have divided : Path.names (slashed (count + 1)) =
      Path.names "a" ++ Path.names (String.ofList (List.replicate count '/')) :=
    Path.names_of_toList_eq (by simp [slashed, List.replicate_succ])
  have no_names : Path.names (String.ofList (List.replicate count '/')) = [] := by
    simp [Path.names, Text.parts, split]
  rw [divided, no_names]
  rfl

/-- As long as the path is not too long, there is no such directory. -/
theorem entries_slashed {count : Nat} (short : count + 2 ≤ Path.maxSize) :
    FileTree.empty.entries (slashed (count + 1)) = .error .missing := by
  have checked : Path.check (slashed (count + 1)) = .ok () := by
    rw [Path.check_eq_ok_iff, size_slashed]
    refine ⟨?_, ?_, short⟩
    · simp [slashed, List.mem_replicate]
    · simp [slashed, ← String.toList_inj]
  rw [FileTree.entries_eq, checked, names_slashed]
  rfl

/-- A tree in which the path `a/../b` leads to a directory as soon as there is a directory `a`. -/
def detourTree : FileTree where
  directories := #[
    { nodes := ⟨[("b", .directory 1)], by decide⟩ },
    { nodes := ⟨[("v0.json", fileOf ⟨[]⟩)], by decide⟩ }]

/-- A root that is not there may be one that cannot be made, one that leads to another directory
when it has been made, or one in which the paths of the files are too long. -/
theorem not_interchangeable_in_every_missing_root :
    (FileTree.empty.entries "store/." = .error .missing ∧
      (⟨"store/."⟩ : DirectoryStore).answers .empty [.save "v1" ⟨[]⟩] ≠
        MemoryStore.answers {} [.save "v1" ⟨[]⟩]) ∧
    (detourTree.entries "a/../b" = .error .missing ∧
      (⟨"a/../b"⟩ : DirectoryStore).answers detourTree [.save "v1" ⟨[]⟩, .holds "v0"] ≠
        MemoryStore.answers {} [.save "v1" ⟨[]⟩, .holds "v0"]) ∧
    (FileTree.empty.entries (slashed 4090) = .error .missing ∧
      (⟨slashed 4090⟩ : DirectoryStore).answers .empty [.save "v1" ⟨[]⟩] ≠
        MemoryStore.answers {} [.save "v1" ⟨[]⟩]) := by
  refine ⟨⟨rfl, ?_⟩, ⟨rfl, ?_⟩, ?_, ?_⟩
  · intro same
    have first : (.error (.file "store/." .missing) : Except StoreError StoreAnswer) = .ok .done :=
      (List.cons.inj same).1
    cases first
  · intro same
    have second : (.ok (.truth true) : Except StoreError StoreAnswer) = .ok (.truth false) :=
      (List.cons.inj (List.cons.inj same).2).1
    cases second
  · exact entries_slashed (by decide)
  · refine not_done_of_long ?_ rfl
    have valid : SnapshotName.isValid "v1" := by decide
    have longer := Path.le_size_join (SnapshotName.isPlain_fileName valid) (slashed 4090)
    have file_size : (SnapshotName.fileName "v1").utf8ByteSize = 7 := by decide
    have limit : Path.maxSize = 4095 := rfl
    rw [size_slashed] at longer
    change Path.maxSize < (Path.join (slashed 4090) (SnapshotName.fileName "v1")).utf8ByteSize
    omega

end DirectoryStore
end StorageLayout
