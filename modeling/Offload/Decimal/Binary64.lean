/-!
# Binary64 numbers as exact values

A double-precision number is not a number, an infinity, or an exact value `± m · 2 ^ q` with a
natural mantissa. `Binary64.ofBits` reads the three fields of the 64-bit word; nothing is rounded,
so that all decimal formats can work on natural numbers.
-/

namespace Offload.Decimal

/-- What a 64-bit floating-point word stands for. -/
inductive Binary64 where
  /-- Not a number. -/
  | nan
  /-- Beyond all finite values. -/
  | infinite (negative : Bool)
  /-- The value `mantissa · 2 ^ exponent`, with a sign that zero has too. -/
  | finite (negative : Bool) (mantissa : Nat) (exponent : Int)
  deriving DecidableEq, Repr

namespace Binary64

/-- How many values the field of the fraction has: `2 ^ 52`. -/
def fractions : Nat := Nat.pow 2 52

/-- How many values the field of the exponent has: `2 ^ 11`. -/
def exponents : Nat := Nat.pow 2 11

/-- Reads a word: one sign bit, eleven bits of exponent, fifty-two bits of fraction. A zero
    exponent field marks the values without a leading one bit. -/
def ofBits (word : UInt64) : Binary64 :=
  let bits : Nat := word.toNat
  let negative : Bool := fractions * exponents ≤ bits
  let field : Nat := bits / fractions % exponents
  let fraction : Nat := bits % fractions
  if field = exponents - 1 then
    if fraction = 0 then infinite negative else nan
  else if field = 0 then
    finite negative fraction (-1074)
  else
    finite negative (fractions + fraction) ((field : Int) - 1075)

/-- What a floating-point number stands for. -/
def ofFloat (x : Float) : Binary64 :=
  ofBits x.toBits

/-- The value `mantissa · 2 ^ exponent` as a fraction of natural numbers. -/
def fraction (mantissa : Nat) (exponent : Int) : Nat × Nat :=
  (mantissa * Nat.pow 2 exponent.toNat, Nat.pow 2 (-exponent).toNat)

end Binary64

end Offload.Decimal
