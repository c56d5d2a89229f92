/-!
# Names of snapshots

A snapshot is kept under a plain name, which is also the stem of a file name. A name is refused if
it is empty or hidden, if it could lead out of the directory of the snapshots, or if it contains a
control character.
-/
namespace StorageLayout.SnapshotName

/-- Whether a character is a control character: U+0000 to U+001F and U+007F to U+009F. -/
def isControl (c : Char) : Bool := c.toNat < 0x20 || (0x7f ≤ c.toNat && c.toNat < 0xa0)

/-- Whether a character separates the names on a path, on some system. -/
def isSeparator (c : Char) : Bool := c = '/' || c = '\\'

def isValid (name : String) : Bool :=
  match name.toList with
  | [] => false
  | first :: rest => first ≠ '.' && (first :: rest).all fun c => !isSeparator c && !isControl c

def fileName (name : String) : String := name ++ ".json"

example : isValid "v1.2.0" := by decide +kernel
example : !isValid ".hidden" ∧ !isValid "a/b" ∧ !isValid "" := by decide +kernel
example : !isValid "a\u0085" := by decide +kernel

end StorageLayout.SnapshotName
