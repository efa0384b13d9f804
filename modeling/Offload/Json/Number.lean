import Offload.Decimal.Shortest

/-!
# Numbers in JSON

A floating-point number is written with the fewest digits that read back. The point stands in its
place as long as the first digit is at most five places behind it or sixteen before it; beyond
that the number is written with an exponent, which has a sign in any case. A number in positional
notation always shows a point.
What is not finite has no number and is written as `null`.
-/

namespace Offload.Json

open Offload.Decimal

/-- Where positional notation ends. The position of the point is counted from before the first
    digit: `0` for `0.5`, `1` for `5.0`. -/
structure Layout where
  /-- The lowest position of the point written in place. -/
  least : Int
  /-- The highest position of the point written in place. -/
  most : Int
  deriving Repr

/-- The layout of numbers in JSON. -/
def numberLayout : Layout := ⟨-4, 16⟩

/-- The exponent part of a number, with its sign. -/
def exponentPart (exponent : Int) : List Char :=
  'e' :: (if exponent < 0 then '-' else '+') :: Nat.toDigits 10 exponent.natAbs

/-- Zeros, as many as the distance says. -/
def zeros (count : Int) : List Char :=
  List.replicate count.toNat '0'

/-- Writes a positive decimal. -/
def Layout.write (layout : Layout) (d : Scientific) : List Char :=
  let digits := Nat.toDigits 10 d.digits
  let point : Int := digits.length + d.exponent
  if layout.least ≤ point ∧ point ≤ layout.most then
    if 0 ≤ d.exponent then digits ++ zeros d.exponent ++ ['.', '0']
    else if 0 < point then digits.take point.toNat ++ ['.'] ++ digits.drop point.toNat
    else ['0', '.'] ++ zeros (-point) ++ digits
  else
    let tail := if digits.length = 1 then [] else '.' :: digits.drop 1
    digits.take 1 ++ tail ++ exponentPart (point - 1)

/-- The text of a floating-point number, if it is finite. -/
def floatLiteral? (x : Float) : Option String :=
  match Binary64.ofFloat x with
  | .nan => none
  | .infinite _ => none
  | .finite negative mantissa exponent =>
    let magnitude :=
      if mantissa = 0 then ['0', '.', '0']
      else numberLayout.write (shortest mantissa exponent)
    some (String.ofList (if negative then '-' :: magnitude else magnitude))

end Offload.Json
