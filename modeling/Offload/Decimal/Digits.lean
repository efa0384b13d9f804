/-!
# Plain integers

Integers written with decimal digits alone, where a sign may stand in front. There is neither a
limit to the number of digits nor a rule against zeros at the front. `word?` and `int32?` take such
an integer into a word if it fits.
-/

namespace Offload.Decimal

/-- The natural number that plain digits stand for. -/
def digitsValue? (digits : List Char) : Option Nat :=
  if !digits.isEmpty && digits.all Char.isDigit then
    some (digits.foldl (fun n c => 10 * n + (c.toNat - 48)) 0)
  else none

/-- A natural number; a plus sign may stand in front. -/
def natural? : List Char → Option Nat
  | '+' :: digits => digitsValue? digits
  | digits => digitsValue? digits

/-- An integer; a sign of either kind may stand in front. -/
def integer? : List Char → Option Int
  | '-' :: digits => (digitsValue? digits).map fun n => -(n : Int)
  | text => (natural? text).map Int.ofNat

/-- The unsigned 64-bit word of an integer, if it has one. -/
def word? (n : Int) : Option UInt64 :=
  if 0 ≤ n ∧ n < UInt64.size then some (UInt64.ofNat n.toNat) else none

/-- The signed 32-bit word of an integer, if it has one. -/
def int32? (n : Int) : Option Int32 :=
  if Int32.minValue.toInt ≤ n ∧ n ≤ Int32.maxValue.toInt then some (Int32.ofInt n) else none

end Offload.Decimal
