/-!
# Storage slots

A storage slot is addressed by a natural number of any size, written in decimal. Leading zeros do
not matter: two texts address the same slot exactly when they denote the same number. A slot holds
32 bytes, and a variable starts at one of them.
-/
namespace StorageLayout

structure Slot where
  index : Nat
  deriving DecidableEq, Repr

namespace Slot

/-- The number that a run of decimal digits denotes. -/
def ofDigits (digits : List Char) : Nat :=
  digits.foldl (fun n c => 10 * n + (c.toNat - '0'.toNat)) 0

/-- Reads a slot index: a non-empty run of the ASCII digits. -/
def ofText? (raw : String) : Option Slot :=
  let digits := raw.toList
  if digits ≠ [] ∧ digits.all Char.isDigit then some ⟨ofDigits digits⟩ else none

/-- The decimal numeral of a slot index, without leading zeros. -/
def text (s : Slot) : String := toString s.index

def size : Nat := 32

/-- Whether an offset addresses a byte inside a slot. -/
def holdsOffset (offset : Nat) : Bool := offset < size

def notDecimalMessage (raw : String) : String :=
  "not a decimal slot index: '" ++ raw ++ "'"

end Slot
end StorageLayout
