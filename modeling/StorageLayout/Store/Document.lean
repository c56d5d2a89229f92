import StorageLayout.Files.System
import StorageLayout.Snapshot.Format
import StorageLayout.Store.Error

/-!
# Documents in files

A document is valid whenever it is fetched from a file; what is written is not checked here.
-/
namespace StorageLayout

variable {m : Type → Type} [Monad m]

def FileSystem.attempt {α : Type} (explain : FileError → StoreError)
    (operation : m (Except FileError α)) : ExceptT StoreError m α :=
  ExceptT.mk (Except.mapError explain <$> operation)

namespace SnapshotDocument

/-- The valid document that a text found at a path contains. -/
def ofFileText (path text : String) : Except StoreError SnapshotDocument := do
  let document ← (decode.run text).mapError (StoreError.unreadable path)
  document.validate.mapError (StoreError.integrity path)
  return document

variable [FileSystem m]

def read (path : String) : ExceptT StoreError m SnapshotDocument := do
  let text ← FileSystem.attempt (.file path) (FileSystem.readText path)
  MonadExcept.ofExcept (ofFileText path text)

def write (path : String) (document : SnapshotDocument) : ExceptT StoreError m Unit :=
  FileSystem.attempt (.file path) (FileSystem.writeText path document.fileText)

end SnapshotDocument
end StorageLayout
