import StorageLayout.Dictionary

/-!
# Type definitions

The compiler describes every storage type that a contract uses by an entry of the contract's type
dictionary. An entry may refer to others by their keys: a mapping to the types of its keys and
values, an array to the type of its elements, a struct to the types of its members. A key need not
be in the dictionary, and entries may refer to each other in circles.
-/
namespace StorageLayout

inductive Encoding where
  /-- Packed into the slots that start at the variable's own slot. -/
  | inplace
  /-- Values live at places computed from their keys. -/
  | mapping
  /-- The length lives at the slot, the elements at a place computed from it. -/
  | dynamicArray
  /-- Byte strings: short values in the slot, long ones elsewhere. -/
  | bytes
  deriving DecidableEq, Repr

structure Member where
  label : String
  offset : UInt64
  /-- The slot relative to the start of the struct, in decimal. -/
  slot : String
  typeKey : String
  /-- The contract that declares the struct. -/
  contract : Option String
  deriving DecidableEq, Repr

/-- An entry of a type dictionary. -/
structure TypeDefinition where
  encoding : Encoding
  /-- The name that the compiler shows for the type. -/
  label : String
  /-- The size in bytes, in decimal. -/
  numberOfBytes : String
  /-- The type of a mapping's keys. -/
  key : Option String
  /-- The members of a struct, in declaration order. -/
  members : Option (List Member)
  /-- The type of a mapping's values. -/
  value : Option String
  /-- The type of an array's elements. -/
  base : Option String
  deriving DecidableEq, Repr

abbrev TypeDictionary := Dictionary TypeDefinition

namespace Encoding

/-- The compiler's name for an encoding. -/
def name : Encoding → String
  | inplace => "inplace"
  | mapping => "mapping"
  | dynamicArray => "dynamic_array"
  | bytes => "bytes"

def all : List Encoding := [inplace, mapping, dynamicArray, bytes]

end Encoding

namespace TypeDefinition

/-- The keys that an entry refers to: of its key, value and base, then of its members. -/
def references (d : TypeDefinition) : List String :=
  d.key.toList ++ d.value.toList ++ d.base.toList ++ (d.members.getD []).map Member.typeKey

/-- Whether an entry refers to any other. -/
def isComposite (d : TypeDefinition) : Bool := !d.references.isEmpty

end TypeDefinition
end StorageLayout
