import StorageLayout.LayoutError
import StorageLayout.Slot
import StorageLayout.TypeDefinition.Basic

/-!
# Snapshots of storage layouts

A snapshot holds the persistent variables of one contract in the order of the compiler, each with
its place and the fingerprint of its type, and the dictionary of the types that they use. A
document holds the snapshots of all contracts of one build. A snapshot is valid when every offset
lies inside a slot and every variable's type is in the dictionary; reading does not check this.
-/
namespace StorageLayout

structure StateVariable where
  name : String
  slot : Slot
  /-- The byte within the slot at which the variable starts. -/
  offset : UInt8
  typeKey : String
  /-- The structural fingerprint of the variable's type. -/
  typeHash : String
  deriving DecidableEq, Repr

/-- The storage layout of one contract. -/
structure ContractSnapshot where
  name : String
  stateVariables : List StateVariable
  types : TypeDictionary

/-- The snapshots of the contracts of one build, in the order of extraction. -/
structure SnapshotDocument where
  contracts : List ContractSnapshot

namespace ContractSnapshot

def variableAt? (c : ContractSnapshot) (index : Nat) : Option StateVariable :=
  c.stateVariables[index]?

def type? (c : ContractSnapshot) (key : String) : Option TypeDefinition := c.types.find? key

/-- Checks one variable: first its offset, then its type. -/
def validateVariable (c : ContractSnapshot) (v : StateVariable) : Except LayoutError Unit :=
  if !Slot.holdsOffset v.offset.toNat then .error (.invalidOffset c.name v.name v.offset.toNat)
  else if !c.types.contains v.typeKey then .error (.typeNotFound c.name v.typeKey)
  else .ok ()

/-- Checks every variable and reports the first that is wrong. -/
def validate (c : ContractSnapshot) : Except LayoutError Unit :=
  c.stateVariables.forM c.validateVariable

end ContractSnapshot

namespace SnapshotDocument

def contract? (d : SnapshotDocument) (name : String) : Option ContractSnapshot :=
  d.contracts.find? (·.name = name)

def names (d : SnapshotDocument) : List String := d.contracts.map (·.name)

/-- Checks every contract and reports the first that is wrong. -/
def validate (d : SnapshotDocument) : Except LayoutError Unit :=
  d.contracts.forM ContractSnapshot.validate

end SnapshotDocument
end StorageLayout
