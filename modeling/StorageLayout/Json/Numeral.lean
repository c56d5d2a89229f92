import StorageLayout.Decimal.Shortest

/-!
# The numbers in a JSON text

A number is kept as it is spelled and classified on demand. Without fraction and exponent it is an
integer if it fits in 64 bits, unsigned when positive and two's complement when negative; every
other spelling, and a negative zero, is a floating-point number.

The floating-point value is not the correctly rounded one. Digits are gathered in a 64-bit word
until one more would overflow it, later digits only count, and the word is then scaled by one
power of ten. A number that leaves the range of the 64-bit format in this way has no value.
-/
namespace StorageLayout.Json

/-- A JSON number as it is spelled, digits most significant first. -/
structure Numeral where
  negative : Bool
  whole : List Nat
  fraction : Option (List Nat) := none
  /-- Whether the exponent is negative, and its digits. -/
  exponent : Option (Bool × List Nat) := none
  deriving Repr

inductive Number where
  | natural (value : Nat)
  | negative (magnitude : Nat)
  | float (value : Float)
  | outOfRange
  deriving Repr

namespace Numeral

/-- The number that digits denote, most significant digit first. -/
def ofDigits (digits : List Nat) : Nat :=
  digits.foldl (fun n d => 10 * n + d) 0

/-- The first number that does not fit in the word that gathers digits. -/
def wordLimit : Nat := Nat.pow 2 64

/-- Gathers the digits before the point: the word, and how many digits were only counted. -/
def gatherWhole (word : Nat) : List Nat → Nat × Nat
  | [] => (word, 0)
  | d :: rest =>
    if 10 * word + d < wordLimit then gatherWhole (10 * word + d) rest
    else (word, rest.length + 1)

/-- Gathers the digits after the point: the word, and how many digits entered it. -/
def gatherFraction (word : Nat) : List Nat → Nat × Nat
  | [] => (word, 0)
  | d :: rest =>
    if 10 * word + d < wordLimit then
      let (word, count) := gatherFraction (10 * word + d) rest
      (word, count + 1)
    else (word, 0)

def powerOfTen (n : Nat) : Float := Float.ofScientific 1 false n

/-- The greatest power of ten that a floating-point number can hold. -/
def greatestPower : Nat := 308

/-- Divides by a power of ten, in steps of the greatest one while the power exceeds it. -/
def scaleDown (x : Float) (power : Nat) : Float :=
  if power ≤ greatestPower then x / powerOfTen power
  else if x == 0 then x
  else scaleDown (x / powerOfTen greatestPower) (power - greatestPower)
termination_by power
decreasing_by simp only [greatestPower] at *; omega

/-- Scales the word by a power of ten, unless the result is too large. -/
def scaled (word : Nat) (power : Int) : Option Float :=
  let x := Float.ofNat word
  if power < 0 then some (scaleDown x power.natAbs)
  else if power.natAbs ≤ greatestPower then
    let y := x * powerOfTen power.natAbs
    if y.isInf then none else some y
  else if x == 0 then some x
  else none

/-- The floating-point value of a numeral. -/
def float? (n : Numeral) : Option Float :=
  let (word, dropped) := gatherWhole 0 n.whole
  let (word, places) := gatherFraction word (n.fraction.getD [])
  let exponent : Int :=
    match n.exponent with
    | none => 0
    | some (isNegative, digits) => if isNegative then -(ofDigits digits : Int) else ofDigits digits
  (scaled word (dropped - places + exponent)).map fun x => if n.negative then -x else x

def isWhole (n : Numeral) : Bool := n.fraction.isNone && n.exponent.isNone

def number (n : Numeral) : Number :=
  let magnitude := ofDigits n.whole
  if n.isWhole && !n.negative && magnitude < wordLimit then .natural magnitude
  else if n.isWhole && n.negative && 0 < magnitude && 2 * magnitude ≤ wordLimit then
    .negative magnitude
  else
    match n.float? with
    | some x => .float x
    | none => .outOfRange

end Numeral
end StorageLayout.Json
