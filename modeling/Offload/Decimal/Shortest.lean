import Offload.Decimal.Binary64

/-!
# Shortest decimals

The fewest digits that read back as the same number. The reals that round to `m · 2 ^ q` form an
interval around it (`Interval`). On the grid of `n`-digit decimals only the two neighbours of the
value need a look: if any point of the grid lies in the interval, one of these does.
`shortest` takes the first grid, from one digit to seventeen, that has such a neighbour.
-/

namespace Offload.Decimal

/-- A positive decimal `digits · 10 ^ exponent`. -/
structure Scientific where
  /-- All significant digits, read as one number. -/
  digits : Nat
  /-- The power of ten of the last digit. -/
  exponent : Int
  deriving DecidableEq, Repr

/-- The reals that round to a binary value, over one common denominator. -/
structure Interval where
  /-- The numerator of the lower end. -/
  low : Nat
  /-- The numerator of the value itself. -/
  value : Nat
  /-- The numerator of the upper end. -/
  high : Nat
  /-- The denominator of all three. -/
  den : Nat
  /-- The ends round to the value as well. -/
  closed : Bool
  deriving Repr

namespace Interval

/-- The interval of `mantissa · 2 ^ exponent`. The ends lie half way to the neighbours; below a
    power of two the lower neighbour is only half as far away, except at the smallest exponent. -/
def ofBinary (mantissa : Nat) (exponent : Int) : Interval :=
  let near := mantissa = Binary64.fractions ∧ -1074 < exponent
  -- in quarters of the last place all three ends are whole numbers
  let (unit, den) := Binary64.fraction 1 (exponent - 2)
  { low := (4 * mantissa - if near then 1 else 2) * unit
    value := 4 * mantissa * unit
    high := (4 * mantissa + 2) * unit
    den := den
    closed := mantissa % 2 = 0 }

/-- The real `num / den'` rounds to the value. -/
def contains (range : Interval) (num den' : Nat) : Bool :=
  if range.closed then
    range.low * den' ≤ num * range.den && num * range.den ≤ range.high * den'
  else
    range.low * den' < num * range.den && num * range.den < range.high * den'

end Interval

/-- The power of ten as a fraction. -/
def tenPower (exponent : Int) : Nat × Nat :=
  (Nat.pow 10 exponent.toNat, Nat.pow 10 (-exponent).toNat)

/-- The largest `e` with `10 ^ e ≤ num / den`, for a positive fraction. -/
def magnitude (num den : Nat) : Int :=
  if den ≤ num then ((Nat.toDigits 10 (num / den)).length : Int) - 1
  else below num (den.log2 + 1) 1
where
  /-- Looks for the first `k`, from the given one, with `den ≤ num · 10 ^ k`. -/
  below (scaled : Nat) : Nat → Nat → Int
    | 0, k => -(k : Int)
    | fuel + 1, k => if den ≤ scaled * 10 then -(k : Int) else below (scaled * 10) fuel (k + 1)

/-- The better neighbour of the value on the grid of multiples of `10 ^ exponent`, if one of the
    two reads back. The nearer one is better; a tie goes to the even one. -/
def onGrid? (range : Interval) (exponent : Int) : Option Nat :=
  let (up, down) := tenPower exponent
  let num := range.value * down
  let den := range.den * up
  let lower := num / den
  let upper := lower + 1
  let lowerReads := range.contains (lower * up) down
  let upperReads := range.contains (upper * up) down
  let twice := 2 * (num % den)
  if lowerReads && upperReads then
    if twice < den then some lower
    else if den < twice then some upper
    else if lower % 2 = 0 then some lower else some upper
  else if lowerReads then some lower
  else if upperReads then some upper
  else none

/-- Drops the zeros at the end of the digits. -/
def stripZeros : Nat → Scientific → Scientific
  | 0, d => d
  | fuel + 1, d =>
    if d.digits ≠ 0 ∧ d.digits % 10 = 0 then stripZeros fuel ⟨d.digits / 10, d.exponent + 1⟩ else d

/-- Tries grids of one digit more each time, at most `fuel` of them. -/
def firstGrid (range : Interval) : Nat → Int → Scientific
  | 0, exponent => ⟨range.value / range.den, exponent⟩
  | fuel + 1, exponent =>
    match onGrid? range exponent with
    | some digits => stripZeros 20 ⟨digits, exponent⟩
    | none => firstGrid range fuel (exponent - 1)

/-- The shortest decimal that reads back as the positive number `mantissa · 2 ^ exponent`; among
    equally short ones the nearest. -/
def shortest (mantissa : Nat) (exponent : Int) : Scientific :=
  let range := Interval.ofBinary mantissa exponent
  firstGrid range 17 (magnitude range.value range.den)

end Offload.Decimal
