/-!
# Errors in a layout

What can be wrong with the layout of a contract: a type that is not in the dictionary, a type that
cannot be resolved within the limits, a slot that is no number, an offset that lies outside a slot.
-/
namespace StorageLayout

inductive LayoutError where
  /-- A type key is absent from the contract's dictionary. -/
  | typeNotFound (contract typeKey : String)
  /-- Types nest deeper than the limit. -/
  | typeDepthExceeded (contract typeKey : String) (limit : Nat)
  /-- A fingerprint takes more steps than the limit. -/
  | typeTooComplex (contract typeKey : String) (limit : Nat)
  /-- A slot is not a decimal number. -/
  | invalidSlot (contract name slot : String)
  /-- An offset lies outside a slot. -/
  | invalidOffset (contract name : String) (offset : Nat)
  deriving DecidableEq, Repr

namespace LayoutError

def message : LayoutError → String
  | typeNotFound contract typeKey =>
    "type not found in contract '" ++ contract ++ "': '" ++ typeKey ++ "'"
  | typeDepthExceeded contract typeKey limit =>
    "type '" ++ typeKey ++ "' in contract '" ++ contract ++ "' nests deeper than " ++
      toString limit ++ " levels"
  | typeTooComplex contract typeKey limit =>
    "type '" ++ typeKey ++ "' in contract '" ++ contract ++ "' needs more than " ++
      toString limit ++ " resolution steps"
  | invalidSlot contract name slot =>
    "invalid slot '" ++ slot ++ "' for variable '" ++ name ++ "' in contract '" ++ contract ++
      "'"
  | invalidOffset contract name offset =>
    "invalid offset " ++ toString offset ++ " for variable '" ++ name ++ "' in contract '" ++
      contract ++ "'"

end LayoutError
end StorageLayout
