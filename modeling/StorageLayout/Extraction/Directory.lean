import StorageLayout.Extraction.Basic
import StorageLayout.Store.Document

/-!
# Artifacts in a directory

A build leaves one artifact for each run of the compiler, all in one directory. They are taken in
the order of their file names, so that the result does not depend on the order in which the system
lists the directory. All artifacts are read before the first is extracted.
-/
namespace StorageLayout.BuildArtifact

variable {m : Type → Type} [Monad m] [FileSystem m]

/-- Whether a file of a name is taken for an artifact. -/
def isArtifactName (fileName : String) : Bool :=
  match Path.stemAndExtension? fileName with
  | some (_, extension) => extension = "json"
  | none => false

/-- The paths of the artifacts in a directory, in the order of their names. -/
def paths (dir : String) : ExceptT StoreError m (List String) := do
  let fileNames ← FileSystem.attempt (.file dir) (FileSystem.entries dir)
  let files ← (fileNames.filter isArtifactName).filterM fun fileName =>
    ExceptT.lift (FileSystem.isFile (Path.join dir fileName))
  return (files.mergeSort (· ≤ ·)).map (Path.join dir)

def read (path : String) : ExceptT StoreError m BuildArtifact := do
  let text ← FileSystem.attempt (.file path) (FileSystem.readText path)
  MonadExcept.ofExcept ((decode.run text).mapError (StoreError.unreadable path))

/-- Reads all artifacts in a directory and tells their paths. -/
def readAll (dir : String) : ExceptT StoreError m (List (String × BuildArtifact)) := do
  let paths ← paths dir
  paths.mapM fun path => return (path, ← read path)

/-- Hands artifacts to a builder, up to the first that cannot be extracted, whose path is told. -/
def feedEach (artifacts : List (String × BuildArtifact)) :
    ExceptT StoreError (StateM SnapshotBuilder) Unit :=
  artifacts.forM fun (path, artifact) =>
    ExceptT.adapt (StoreError.extraction path) (discard (SnapshotBuilder.feed artifact))

def documentOf (artifacts : List (String × BuildArtifact)) : Except StoreError SnapshotDocument :=
  let (answer, built) := (feedEach artifacts).run {}
  answer.map fun _ => built.document

def extractDirectory (dir : String) : ExceptT StoreError m SnapshotDocument := do
  let artifacts ← readAll dir
  MonadExcept.ofExcept (documentOf artifacts)

end StorageLayout.BuildArtifact
