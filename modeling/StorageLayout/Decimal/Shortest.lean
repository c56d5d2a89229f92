/-!
# The shortest decimal of a floating-point number

A finite binary number stands for every real number that rounds to it. Among the decimals in that
interval the one with the fewest digits is shown, of two with equally many digits the nearer, and
of two that are equally near the one whose last digit is even.
All comparisons are made on natural numbers, so nothing is rounded on the way.
-/
namespace StorageLayout.Decimal

/-- A positive number as a ratio of natural numbers, with the ends of the interval of reals that
round to it over the same denominator. -/
structure Interval where
  low : Nat
  value : Nat
  high : Nat
  denominator : Nat
  /-- Whether the two ends themselves round to the number. -/
  closed : Bool

/-- A decimal: its digits, most significant first and without zeros at the end, and the power of
ten of the first digit. -/
structure Digits where
  digits : List Char
  exponent : Int

/-- The interval of a positive finite number in the 64-bit binary format. -/
def Interval.ofBits (bits : UInt64) : Interval :=
  let bits := bits.toNat
  let leading := Nat.pow 2 52
  let fraction := bits % leading
  let biased := bits / leading % Nat.pow 2 11
  let mantissa := if biased = 0 then fraction else leading + fraction
  let below := if fraction = 0 ∧ 1 < biased then 1 else 2
  let up := (max biased 1) - 1
  let scale := Nat.pow 2 up
  ⟨(4 * mantissa - below) * scale, 4 * mantissa * scale, (4 * mantissa + 2) * scale,
    Nat.pow 2 1076, mantissa % 2 = 0⟩

/-- The power of ten of the first digit of `value / denominator`, both positive. -/
def leadingExponent (value denominator : Nat) : Int :=
  if denominator ≤ value then ((Nat.toDigits 10 (value / denominator)).length : Int) - 1
  else
    let inverse := (denominator + value - 1) / value
    Int.neg (Nat.toDigits 10 (inverse - 1)).length

/-- Whether `count` steps of size `10 ^ step` lie in the interval. -/
def Interval.holds (i : Interval) (step : Int) (count : Nat) : Bool :=
  let scaled := count * Nat.pow 10 step.toNat * i.denominator
  let low := i.low * Nat.pow 10 (-step).toNat
  let high := i.high * Nat.pow 10 (-step).toNat
  if i.closed then low ≤ scaled && scaled ≤ high else low < scaled && scaled < high

/-- The number of steps of size `10 ^ step` nearest to the number among those in the interval. -/
def Interval.onGrid? (i : Interval) (step : Int) : Option Nat :=
  let numerator := i.value * Nat.pow 10 (-step).toNat
  let unit := i.denominator * Nat.pow 10 step.toNat
  let below := numerator / unit
  let twiceRest := 2 * (numerator % unit)
  let goesBelow := twiceRest < unit ∨ (twiceRest = unit ∧ below % 2 = 0)
  match i.holds step below && 0 < below, i.holds step (below + 1) with
  | true, true => some (if goesBelow then below else below + 1)
  | true, false => some below
  | false, true => some (below + 1)
  | false, false => none

def dropZeros (digits : List Char) : List Char :=
  (digits.reverse.dropWhile (· = '0')).reverse

/-- The decimal with the fewest digits in the interval; seventeen always suffice. -/
def Interval.shortest (i : Interval) : Digits :=
  let exponent := leadingExponent i.value i.denominator
  let found := (List.range 17).findSome? fun (n : Nat) =>
    let step := exponent - n
    (i.onGrid? step).map fun count => (count, step)
  let (count, step) := found.getD (0, 0)
  let digits := Nat.toDigits 10 count
  ⟨dropZeros digits, step + digits.length - 1⟩

/-- How a decimal is laid out: which exponents are written positionally. -/
structure Layout where
  leastPositional : Int
  greatestPositional : Int

/-- Numbers from 0.00001 up to sixteen places before the point are written positionally. -/
def Layout.plain : Layout := ⟨-5, 15⟩

/-- A decimal in positional form, with at least one digit on each side of the point. -/
def Digits.positional (d : Digits) : List Char :=
  if d.exponent < 0 then
    ['0', '.'] ++ List.replicate (-d.exponent - 1).toNat '0' ++ d.digits
  else
    let places := d.exponent.toNat + 1
    let whole := d.digits.take places ++ List.replicate (places - d.digits.length) '0'
    let fraction := d.digits.drop places
    whole ++ ['.'] ++ (if fraction.isEmpty then ['0'] else fraction)

/-- A decimal with its exponent, which always carries a sign. -/
def Digits.scientific (d : Digits) : List Char :=
  let sign := if d.exponent < 0 then '-' else '+'
  let fraction := d.digits.drop 1
  d.digits.take 1 ++ (if fraction.isEmpty then [] else '.' :: fraction) ++
    ['e', sign] ++ Nat.toDigits 10 d.exponent.natAbs

def text (x : Float) : String :=
  let bits := x.toBits
  let signBit := Nat.pow 2 63
  let sign := if signBit ≤ bits.toNat then ['-'] else []
  let magnitude := bits.toNat % signBit
  if magnitude = 0 then String.ofList (sign ++ ['0', '.', '0'])
  else
    let d := (Interval.ofBits (UInt64.ofNat magnitude)).shortest
    let layout := Layout.plain
    let positional := layout.leastPositional ≤ d.exponent ∧ d.exponent ≤ layout.greatestPositional
    String.ofList (sign ++ if positional then d.positional else d.scientific)

end StorageLayout.Decimal
