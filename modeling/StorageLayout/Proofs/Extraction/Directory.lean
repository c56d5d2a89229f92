import StorageLayout.Extraction.Directory
import StorageLayout.Proofs.Extraction.Builder
import StorageLayout.Proofs.Files.Actions

/-!
# The document of a directory of artifacts

To extract a directory changes no file, so there is one answer for each tree. If it is a document,
the document is valid; if it is a failure, it is one of a file or of an artifact, and never of an
invalid document.
-/
namespace StorageLayout

namespace BuildArtifact

open FileTree (Action Reads)

/-- The paths of the artifacts in a directory of a tree. -/
def pathsIn (dir : String) (t : FileTree) : Except StoreError (List String) := do
  let fileNames ← (t.entries dir).mapError (.file dir)
  return (((fileNames.filter isArtifactName).filter fun fileName =>
    t.isFile (Path.join dir fileName)).mergeSort (· ≤ ·)).map (Path.join dir)

def readIn (path : String) (t : FileTree) : Except StoreError BuildArtifact := do
  let text ← (t.readText path).mapError (.file path)
  (decode.run text).mapError (.unreadable path)

def readAllIn (dir : String) (t : FileTree) :
    Except StoreError (List (String × BuildArtifact)) := do
  let paths ← pathsIn dir t
  paths.mapM fun path => return (path, ← readIn path t)

/-- The document of all artifacts in a directory of a tree. -/
def extractIn (dir : String) (t : FileTree) : Except StoreError SnapshotDocument := do
  let artifacts ← readAllIn dir t
  documentOf artifacts

theorem reads_paths (dir : String) : Reads (paths dir) (pathsIn dir) := by
  have listed : Reads (FileSystem.attempt (.file dir) (FileSystem.entries dir)) fun t =>
      (t.entries dir).mapError (.file dir) := fun _ => rfl
  have asked (fileName : String) (t : FileTree) :
      (FileSystem.isFile (Path.join dir fileName) : StateM FileTree Bool) t =
        (t.isFile (Path.join dir fileName), t) := rfl
  exact listed.bind fun fileNames => (FileTree.reads_filterM asked _).bind fun files =>
    FileTree.reads_pure ((files.mergeSort (· ≤ ·)).map (Path.join dir))

theorem reads_read (path : String) : Reads (read path) (readIn path) :=
  (FileTree.reads_readText _ path).bind fun _ => FileTree.reads_ofExcept _

theorem reads_readAll (dir : String) : Reads (readAll dir) (readAllIn dir) :=
  (reads_paths dir).bind fun paths => FileTree.Reads.mapM (fun path =>
    (reads_read path).bind fun artifact => FileTree.reads_pure (path, artifact)) paths

theorem reads_extractDirectory (dir : String) : Reads (extractDirectory dir) (extractIn dir) :=
  (reads_readAll dir).bind fun _ => FileTree.reads_ofExcept _

section Building

open Stateful SnapshotBuilder

/-- The snapshots of an artifact, or its path with the reason why it has none. -/
def extractEntry (entry : String × BuildArtifact) : Except StoreError (List ContractSnapshot) :=
  entry.2.extract.mapError (.extraction entry.1)

theorem extractEntry_eq_ok_iff {entry : String × BuildArtifact}
    {snapshots : List ContractSnapshot} :
    extractEntry entry = .ok snapshots ↔ entry.2.extract = .ok snapshots := by
  unfold extractEntry
  cases entry.2.extract <;> simp [Except.mapError]

/-- The document of artifacts is built from the snapshots of all of them. -/
theorem documentOf_eq (artifacts : List (String × BuildArtifact)) :
    documentOf artifacts = (artifacts.mapM extractEntry).map
      fun found => (withSnapshots {} found.flatten).document := by
  have passes (entry : String × BuildArtifact) (snapshots : List ContractSnapshot)
      (found : extractEntry entry = .ok snapshots) (b : SnapshotBuilder) :
      (ExceptT.adapt (StoreError.extraction entry.1) (discard (feed entry.2))).run b =
        (.ok (), b.withSnapshots snapshots) := by
    rw [run_adapt, run_discard_feed_of_ok _ _ (extractEntry_eq_ok_iff.1 found)]
    rfl
  have fails (entry : String × BuildArtifact) (e : StoreError)
      (failed : extractEntry entry = .error e) (b : SnapshotBuilder) :
      (ExceptT.adapt (StoreError.extraction entry.1) (discard (feed entry.2))).run b =
        (.error e, b) := by
    obtain ⟨reason, refused, rfl⟩ := mapError_eq_error_iff.1 failed
    rw [run_adapt, run_discard_feed_of_error _ _ refused]
    rfl
  obtain ⟨answer, state⟩ := run_forM passes fails artifacts {}
  change ((feedEach artifacts).run {}).1.map (fun _ => ((feedEach artifacts).run {}).2.document) = _
  rw [feedEach, answer]
  cases ran : artifacts.mapM extractEntry with
  | error e => rfl
  | ok found =>
    rw [state found ran, ← withSnapshots_flatten]
    rfl

end Building

/-- A document that is extracted from a directory is valid. -/
theorem validate_of_extractIn {dir : String} {t : FileTree} {document : SnapshotDocument}
    (extracted : extractIn dir t = .ok document) : document.validate = .ok () := by
  obtain ⟨artifacts, -, extracted⟩ := bind_eq_ok_iff.1 extracted
  rw [documentOf_eq] at extracted
  obtain ⟨found, ran, rfl⟩ := map_eq_ok_iff.1 extracted
  refine (SnapshotDocument.validate_eq_ok_iff _).2
    (SnapshotBuilder.sound_empty.withSnapshots fun c listed => ?_).valid
  obtain ⟨snapshots, member, listed⟩ := List.mem_flatten.1 listed
  obtain ⟨entry, -, extraction⟩ := exists_of_forall₂ (mapM_eq_ok_iff.1 ran).flip member
  exact validate_of_mem_extract (extractEntry_eq_ok_iff.1 extraction) listed

/-- What fails before anything is extracted is a file or the JSON text in it. -/
theorem ne_integrity_of_readAllIn {dir : String} {t : FileTree} {e : StoreError}
    (failed : readAllIn dir t = .error e) : ∀ name cause, e ≠ .integrity name cause := by
  rcases bind_eq_error_iff.1 failed with failed | ⟨paths, -, failed⟩
  · rcases bind_eq_error_iff.1 failed with failed | ⟨fileNames, -, failed⟩
    · obtain ⟨cause, -, rfl⟩ := mapError_eq_error_iff.1 failed
      exact nofun
    · cases failed
  · obtain ⟨-, path, -, -, -, failed⟩ := mapM_eq_error_iff.1 failed
    rcases bind_eq_error_iff.1 failed with failed | ⟨artifact, -, failed⟩
    · rcases bind_eq_error_iff.1 failed with failed | ⟨text, -, failed⟩
      · obtain ⟨cause, -, rfl⟩ := mapError_eq_error_iff.1 failed
        exact nofun
      · obtain ⟨problem, -, rfl⟩ := mapError_eq_error_iff.1 failed
        exact nofun
    · cases failed

/-- An artifact that cannot be extracted is never reported as a document that is not valid. -/
theorem ne_integrity_of_documentOf {artifacts : List (String × BuildArtifact)} {e : StoreError}
    (failed : documentOf artifacts = .error e) : ∀ name cause, e ≠ .integrity name cause := by
  rw [documentOf_eq] at failed
  cases ran : artifacts.mapM extractEntry with
  | ok found =>
    rw [ran] at failed
    cases failed
  | error e' =>
    rw [ran] at failed
    obtain rfl := Except.error.inj failed
    obtain ⟨-, entry, -, -, -, failed⟩ := mapM_eq_error_iff.1 ran
    obtain ⟨reason, -, rfl⟩ := mapError_eq_error_iff.1 failed
    exact nofun

/-- A directory is never refused because a document is not valid. -/
theorem ne_integrity_of_extractIn {dir : String} {t : FileTree} {e : StoreError}
    (failed : extractIn dir t = .error e) : ∀ name cause, e ≠ .integrity name cause := by
  rcases bind_eq_error_iff.1 failed with failed | ⟨artifacts, -, failed⟩
  · exact ne_integrity_of_readAllIn failed
  · exact ne_integrity_of_documentOf failed

end BuildArtifact
end StorageLayout
