import StorageLayout.Snapshot.Basic
import StorageLayout.Store.Error
import StorageLayout.Store.Name

/-!
# What is asked of a store of snapshots

A store keeps documents under names. Whatever holds the documents, a store answers the same
requests, refuses the same names, and keeps valid documents only.
-/
namespace StorageLayout

inductive StoreRequest where
  /-- To keep a document under a name, in place of any earlier one. -/
  | save (name : String) (document : SnapshotDocument)
  /-- To fetch the document kept under a name. -/
  | load (name : String)
  /-- Whether a document is kept under a name. -/
  | holds (name : String)
  /-- The names under which documents are kept, in ascending order. -/
  | names
  /-- To remove the document kept under a name. -/
  | delete (name : String)

inductive StoreAnswer where
  | done
  | document (document : SnapshotDocument)
  | truth (value : Bool)
  | names (names : List String)

def SnapshotName.check (name : String) : Except StoreError Unit :=
  if isValid name then .ok () else .error (.invalidName name)

/-- Checks a document that is to be kept under a name. -/
def SnapshotDocument.checkFor (name : String) (document : SnapshotDocument) :
    Except StoreError Unit :=
  document.validate.mapError (StoreError.integrity name)

end StorageLayout
