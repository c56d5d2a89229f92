import StorageLayout.Files.Error
import StorageLayout.Json.Problem
import StorageLayout.LayoutError

/-!
# Why a snapshot cannot be kept or fetched

The failures of working with kept snapshots and with the artifacts of the compiler. They fall into
two classes: what a file contains may be wrong, or the files cannot be reached.
-/
namespace StorageLayout

/-- Why a snapshot or an artifact cannot be kept or fetched. -/
inductive StoreError where
  /-- An operation on a file failed. -/
  | file (path : String) (cause : FileError)
  /-- A file cannot be read as what it should contain. -/
  | unreadable (path : String) (cause : Json.Problem)
  /-- No snapshot is kept under a name. -/
  | notFound (name : String)
  /-- A text cannot be the name of a snapshot. -/
  | invalidName (name : String)
  /-- An artifact cannot be turned into snapshots. -/
  | extraction (path : String) (cause : LayoutError)
  /-- A document is not valid. It is known by its name when it is kept and by its path when it is
  fetched. -/
  | integrity (name : String) (cause : LayoutError)

namespace StoreError

def message : StoreError → String
  | file path cause => "I/O error at " ++ path ++ ": " ++ cause.message
  | unreadable path _ => "malformed JSON in " ++ path
  | notFound name => "snapshot not found: " ++ name
  | invalidName name => "invalid snapshot name: " ++ Text.quoted name
  | extraction path cause => "failed to extract " ++ path ++ ": " ++ cause.message
  | integrity name cause => "integrity error in " ++ name ++ ": " ++ cause.message

/-- Whether the content of a file is at fault. -/
def isMalformedData : StoreError → Bool
  | unreadable .. | extraction .. | integrity .. => true
  | file .. | notFound .. | invalidName .. => false

end StoreError
end StorageLayout
