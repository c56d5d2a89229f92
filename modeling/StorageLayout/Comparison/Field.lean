import StorageLayout.Snapshot.Basic

/-!
# The compared fields of a variable

Two variables are compared by name, slot, offset and the fingerprint of their type. The key of the
type is not compared, because the compiler may choose another one for the same type.
-/
namespace StorageLayout

inductive Field where
  | name
  | slot
  | offset
  | typeHash
  deriving DecidableEq, Repr

namespace Field

def all : List Field := [name, slot, offset, typeHash]

/-- The field's name in documents. -/
def label : Field → String
  | name => "name"
  | slot => "slot"
  | offset => "offset"
  | typeHash => "typeHash"

def differs (old new : StateVariable) : Field → Bool
  | name => old.name ≠ new.name
  | slot => old.slot ≠ new.slot
  | offset => old.offset ≠ new.offset
  | typeHash => old.typeHash ≠ new.typeHash

/-- The fields that differ between two variables, in order. -/
def changed (old new : StateVariable) : List Field := all.filter (differs old new)

end Field
end StorageLayout
