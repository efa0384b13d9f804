import Offload.Decimal.Binary64

/-!
# Fixed places

A number written with a given count of digits after the point: the exact binary value is rounded
to the nearest such decimal, and a tie goes to the even one (`roundDiv`). The sign of a negative
number stays even where all digits shown are zero.
-/

namespace Offload.Decimal

/-- The integer nearest to `num / den`; of two equally near, the even one. -/
def roundDiv (num den : Nat) : Nat :=
  let floor := num / den
  let twice := 2 * (num % den)
  if twice < den then floor
  else if den < twice then floor + 1
  else if floor % 2 = 0 then floor else floor + 1

/-- The digits of a natural number, padded on the left with zeros to a least length. -/
def paddedDigits (width n : Nat) : String :=
  let digits := Nat.toDigits 10 n
  String.ofList (List.replicate (width - digits.length) '0' ++ digits)

/-- Writes `n / 10 ^ places` with exactly `places` digits after the point. -/
def pointed (places n : Nat) : String :=
  let whole := toString (n / Nat.pow 10 places)
  if places = 0 then whole
  else whole ++ "." ++ paddedDigits places (n % Nat.pow 10 places)

/-- Writes a number with exactly `places` digits after the point. -/
def fixed (places : Nat) (x : Float) : String :=
  match Binary64.ofFloat x with
  | .nan => "NaN"
  | .infinite negative => if negative then "-inf" else "inf"
  | .finite negative mantissa exponent =>
    let (num, den) := Binary64.fraction mantissa exponent
    (if negative then "-" else "") ++ pointed places (roundDiv (num * Nat.pow 10 places) den)

end Offload.Decimal
