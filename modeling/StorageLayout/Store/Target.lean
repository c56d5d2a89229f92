import StorageLayout.Store.Directory

/-!
# Where a snapshot is exported to
-/
namespace StorageLayout

structure ExportTarget where
  directory : String := ".slotguard"
  name : String := "report"
  deriving DecidableEq, Repr

namespace ExportTarget

def store (t : ExportTarget) : DirectoryStore := ⟨t.directory⟩

def path (t : ExportTarget) : String := Path.join t.directory (SnapshotName.fileName t.name)

end ExportTarget
end StorageLayout
