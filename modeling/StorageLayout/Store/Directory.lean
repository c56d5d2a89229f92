import StorageLayout.Store.Document
import StorageLayout.Store.Request

/-!
# Snapshots kept in a directory

Each document has a file of its own, whose name is the name of the snapshot with `.json` behind it.
The directory is made when the first document is kept; until then it counts as empty. Other files
may lie in the directory; every file with that ending is listed.
-/
namespace StorageLayout

structure DirectoryStore where
  root : String
  deriving DecidableEq, Repr

namespace DirectoryStore

variable {m : Type → Type} [Monad m] [FileSystem m]

/-- The path of the file that holds a snapshot, whose name must be fit for it. -/
def path (s : DirectoryStore) (name : String) : Except StoreError String := do
  SnapshotName.check name
  return Path.join s.root (SnapshotName.fileName name)

/-- What a failure to reach the file of a snapshot means. -/
def explain (name path : String) : FileError → StoreError
  | .missing => .notFound name
  | failure => .file path failure

def save (s : DirectoryStore) (name : String) (document : SnapshotDocument) :
    ExceptT StoreError m Unit := do
  let path ← MonadExcept.ofExcept (s.path name)
  MonadExcept.ofExcept (document.checkFor name)
  FileSystem.attempt (.file s.root) (FileSystem.makeDirectories s.root)
  document.write path

def load (s : DirectoryStore) (name : String) : ExceptT StoreError m SnapshotDocument := do
  let path ← MonadExcept.ofExcept (s.path name)
  let text ← FileSystem.attempt (explain name path) (FileSystem.readText path)
  MonadExcept.ofExcept (SnapshotDocument.ofFileText path text)

def holds (s : DirectoryStore) (name : String) : ExceptT StoreError m Bool := do
  let path ← MonadExcept.ofExcept (s.path name)
  ExceptT.lift (FileSystem.isFile path)

/-- The name of the snapshot that a file of a name holds. -/
def snapshotName? (fileName : String) : Option String :=
  match Path.stemAndExtension? fileName with
  | some (stem, "json") => some stem
  | _ => none

/-- The entries of the directory; none if there is no such directory. -/
def entries (s : DirectoryStore) : ExceptT StoreError m (List String) :=
  ExceptT.mk do
    match ← FileSystem.entries (m := m) s.root with
    | .ok names => return .ok names
    | .error .missing => return .ok []
    | .error failure => return .error (.file s.root failure)

/-- The names under which documents are kept, in ascending order. -/
def names (s : DirectoryStore) : ExceptT StoreError m (List String) := do
  let fileNames ← s.entries
  let files ← fileNames.filterM fun fileName =>
    ExceptT.lift (FileSystem.isFile (Path.join s.root fileName))
  return (files.filterMap snapshotName?).mergeSort (· ≤ ·)

def delete (s : DirectoryStore) (name : String) : ExceptT StoreError m Unit := do
  let path ← MonadExcept.ofExcept (s.path name)
  FileSystem.attempt (explain name path) (FileSystem.removeFile path)

def perform (s : DirectoryStore) : StoreRequest → ExceptT StoreError m StoreAnswer
  | .save name document => do
    s.save name document
    return .done
  | .load name => return .document (← s.load name)
  | .holds name => return .truth (← s.holds name)
  | .names => return .names (← s.names)
  | .delete name => do
    s.delete name
    return .done

end DirectoryStore
end StorageLayout
