/-! The shortest decimal that reads back as a given binary number. On each decimal grid, from the
coarsest on, the two neighbours of the number are tried; the nearer of those that lie among the
reals rounding to the number wins, and a rule decides between two equally near. -/
namespace EventLog.Decimal

/-- The positive real `mantissa · 2 ^ exponent` of a binary format. -/
structure Binary where
  mantissa : Nat
  exponent : Int
  /-- The next number below is only half as far as the next above. -/
  narrowBelow : Bool
  deriving DecidableEq, Repr

/-- Digits with a point behind the first, times a power of ten. -/
structure Digits where
  digits : List Char
  exponent : Int
  deriving DecidableEq, Repr

/-- Which of two equally near points is taken. -/
inductive Tie
  | even
  | above
  deriving DecidableEq, Repr

def Tie.takesLower (tie : Tie) (lower : Nat) : Bool :=
  match tie with
  | even => lower % 2 = 0
  | above => false

namespace Binary

/-- The power of two, or one for a negative exponent. -/
def twos (exponent : Int) : Nat := Nat.pow 2 exponent.toNat

/-- The power of ten, or one for a negative exponent. -/
def tens (exponent : Int) : Nat := Nat.pow 10 exponent.toNat

/-- A real number and the interval around it, as numerators over one denominator. -/
structure Interval where
  low : Nat
  value : Nat
  high : Nat
  denominator : Nat
  closed : Bool

def interval (b : Binary) : Interval :=
  let scale := twos (b.exponent - 2)
  { low := (4 * b.mantissa - if b.narrowBelow then 1 else 2) * scale
    value := 4 * b.mantissa * scale
    high := (4 * b.mantissa + 2) * scale
    denominator := twos (2 - b.exponent)
    closed := b.mantissa % 2 = 0 }

/-- Whether `c · 10 ^ grid` lies in the interval. -/
def Interval.contains (i : Interval) (grid : Int) (c : Nat) : Bool :=
  let point := c * tens grid * i.denominator
  let scale := tens (-grid)
  if i.closed then i.low * scale ≤ point && point ≤ i.high * scale
  else i.low * scale < point && point < i.high * scale

/-- The place of the leading decimal digit of `value / denominator`. -/
def Interval.leading (i : Interval) : Int :=
  if i.denominator ≤ i.value then (Nat.toDigits 10 (i.value / i.denominator)).length - 1
  else -((Nat.toDigits 10 ((i.denominator + i.value - 1) / i.value - 1)).length : Int)

/-- A point of the grid in the interval, next to the value. -/
def Interval.pick? (tie : Tie) (i : Interval) (grid : Int) : Option Nat :=
  let numerator := i.value * tens (-grid)
  let denominator := i.denominator * tens grid
  let below := numerator / denominator
  let excess := 2 * (numerator % denominator)
  match i.contains grid below, i.contains grid (below + 1) with
  | true, true =>
    some (if excess < denominator ∨ excess = denominator ∧ tie.takesLower below then below
      else below + 1)
  | true, false => some below
  | false, true => some (below + 1)
  | false, false => none

def ofPoint (c : Nat) (grid : Int) : Digits :=
  let digits := Nat.toDigits 10 c
  ⟨(digits.reverse.dropWhile (· == '0')).reverse, grid + digits.length - 1⟩

/-- The first grid that has a point in the interval, among grids of up to `more` digits more. -/
def search (tie : Tie) (i : Interval) (leading : Int) : (more count : Nat) → Digits
  | 0, count => ofPoint (i.value * tens (count - leading - 1)
      / (i.denominator * tens (leading + 1 - count))) (leading - count + 1)
  | more + 1, count =>
    match i.pick? tie (leading - count + 1) with
    | some c => ofPoint c (leading - count + 1)
    | none => search tie i leading more (count + 1)

/-- Seventeen digits are enough for a mantissa of 53 bits. -/
def shortest (tie : Tie) (b : Binary) : Digits :=
  let i := b.interval
  search tie i i.leading 17 1

end Binary

example : Binary.shortest .even ⟨0x10000000000000, -52, true⟩ = ⟨['1'], 0⟩ := by decide +kernel
example : Binary.shortest .even ⟨1, -1074, false⟩ = ⟨['5'], -324⟩ := by decide +kernel
example : Binary.shortest .even ⟨0x1000000000000a, -3, false⟩
    = ⟨"5629499534213132".toList, 14⟩ := by decide +kernel
example : Binary.shortest .above ⟨0x1000000000000a, -3, false⟩
    = ⟨"5629499534213133".toList, 14⟩ := by decide +kernel

/-- A finite number of 64 bits by its sign and magnitude; no magnitude stands for zero. -/
inductive Reading
  | finite (negative : Bool) (magnitude : Option Binary)
  | infinite (negative : Bool)
  | notANumber

def Reading.ofBits (bits : UInt64) : Reading :=
  let negative := bits >>> 63 = 1
  let exponent := (bits >>> 52 &&& 0x7ff).toNat
  let fraction := (bits &&& 0xfffffffffffff).toNat
  if exponent = 2047 then (if fraction = 0 then .infinite negative else .notANumber)
  else if exponent = 0 then
    .finite negative (if fraction = 0 then none else some ⟨fraction, -1074, false⟩)
  else .finite negative
    (some ⟨0x10000000000000 + fraction, (exponent : Int) - 1075, fraction = 0 && 1 < exponent⟩)

end EventLog.Decimal
