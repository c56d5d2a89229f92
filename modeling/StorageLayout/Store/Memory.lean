import StorageLayout.Catalog
import StorageLayout.Store.Request

/-!
# Snapshots kept in memory
-/
namespace StorageLayout

structure MemoryStore where
  documents : Catalog SnapshotDocument := .empty

namespace MemoryStore

def save (s : MemoryStore) (name : String) (document : SnapshotDocument) :
    Except StoreError MemoryStore := do
  SnapshotName.check name
  document.checkFor name
  return ⟨s.documents.insert name document⟩

def load (s : MemoryStore) (name : String) : Except StoreError SnapshotDocument := do
  SnapshotName.check name
  match s.documents.find? name with
  | none => .error (.notFound name)
  | some document => .ok document

def holds (s : MemoryStore) (name : String) : Except StoreError Bool := do
  SnapshotName.check name
  return s.documents.contains name

def delete (s : MemoryStore) (name : String) : Except StoreError MemoryStore := do
  SnapshotName.check name
  if s.documents.contains name then .ok ⟨s.documents.erase name⟩ else .error (.notFound name)

/-- Answers a request. A request that fails leaves the store as it is. -/
def perform (s : MemoryStore) : StoreRequest → Except StoreError StoreAnswer × MemoryStore
  | .save name document => updated (s.save name document)
  | .load name => ((s.load name).map .document, s)
  | .holds name => ((s.holds name).map .truth, s)
  | .names => (.ok (.names s.documents.names), s)
  | .delete name => updated (s.delete name)
where
  updated : Except StoreError MemoryStore → Except StoreError StoreAnswer × MemoryStore
    | .ok changed => (.ok .done, changed)
    | .error failure => (.error failure, s)

end MemoryStore
end StorageLayout
