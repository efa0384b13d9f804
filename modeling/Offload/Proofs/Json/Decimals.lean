import Offload.Proofs.Json.Layouts

/-!
# Decimals in JSON

A floating-point number is written with a point or with an exponent, and what is written is read as
one number, up to its end (`Json.legible_ofFloat`). Only zeros in front could spoil this: the digits
of a decimal are those of a natural number, which has none unless it is zero, and the shortest
decimal of a number that is not zero has no digit zero alone, unless it is smaller than one
(`Decimal.shortest_digits`).
-/

namespace Offload

/-! ### Shortest decimals -/

namespace Decimal

theorem stripZeros_digits (fuel : Nat) {d : Scientific} (h : d.digits ≠ 0) :
    (stripZeros fuel d).digits ≠ 0 := by
  induction fuel generalizing d with
  | zero => exact h
  | succ fuel ih =>
    rw [stripZeros]
    split_ifs with hzero
    · exact ih (d := ⟨d.digits / 10, d.exponent + 1⟩) (by dsimp only; omega)
    · exact h

theorem Interval.not_contains_zero {range : Interval} (hlow : range.low ≠ 0) {den : Nat}
    (hden : den ≠ 0) : range.contains 0 den = false := by
  have hpos : range.low * den ≠ 0 := Nat.mul_ne_zero hlow hden
  rw [contains]
  split_ifs <;> simp [hpos]

/-- What reads back as a number that is not zero is not zero. -/
theorem onGrid?_digits {range : Interval} (hlow : range.low ≠ 0) {exponent : Int} {digits : Nat}
    (h : onGrid? range exponent = some digits) : digits ≠ 0 := by
  have hdown : (tenPower exponent).2 ≠ 0 := (Nat.pow_pos (by decide)).ne'
  rw [onGrid?] at h
  dsimp only at h
  generalize range.value * (tenPower exponent).2 / (range.den * (tenPower exponent).1) = lower at h
  have hlower (hreads : range.contains (lower * (tenPower exponent).1) (tenPower exponent).2) :
      lower ≠ 0 := by
    rintro rfl
    rw [Nat.zero_mul, Interval.not_contains_zero hlow hdown] at hreads
    cases hreads
  have hupper : lower + 1 ≠ 0 := Nat.succ_ne_zero lower
  -- the upper neighbour is not zero in any case
  split_ifs at h with hboth _ _ _ hreads <;> cases h
  · exact hlower (Bool.and_eq_true_iff.1 hboth).1
  · exact hupper
  · exact hlower (Bool.and_eq_true_iff.1 hboth).1
  · exact hupper
  · exact hlower hreads
  · exact hupper

theorem magnitude_below (den fuel : Nat) {scaled k : Nat} :
    magnitude.below den scaled fuel k ≤ 0 := by
  induction fuel generalizing scaled k with
  | zero => rw [magnitude.below]; omega
  | succ fuel ih =>
    rw [magnitude.below]
    split_ifs
    · omega
    · exact ih

theorem magnitude_le {num den : Nat} (h : num < den) : magnitude num den ≤ 0 := by
  rw [magnitude, if_neg (Nat.not_le.2 h)]
  exact magnitude_below _ _

theorem firstGrid_digits {range : Interval} (hlow : range.low ≠ 0) (fuel : Nat) {exponent : Int}
    (h : range.value / range.den ≠ 0 ∨ exponent ≤ 0) :
    (firstGrid range fuel exponent).digits ≠ 0 ∨ (firstGrid range fuel exponent).exponent ≤ 0 := by
  induction fuel generalizing exponent with
  | zero => exact h
  | succ fuel ih =>
    rw [firstGrid]
    split
    · rename_i digits hdigits
      exact .inl (stripZeros_digits 20 (onGrid?_digits hlow hdigits))
    · exact ih (h.imp_right fun h => by omega)

/-- Where the digits of a shortest decimal are zero, the number is smaller than one. -/
theorem shortest_digits {mantissa : Nat} (h : mantissa ≠ 0) (exponent : Int) :
    (shortest mantissa exponent).digits ≠ 0 ∨ (shortest mantissa exponent).exponent ≤ 0 := by
  have hpow (n : Nat) : 0 < Nat.pow 2 n := Nat.pow_pos (by decide)
  have hunit : (Binary64.fraction 1 (exponent - 2)).1 ≠ 0 :=
    Nat.mul_ne_zero Nat.one_ne_zero (hpow _).ne'
  have hden : (Interval.ofBinary mantissa exponent).den ≠ 0 := (hpow _).ne'
  have hlow : (Interval.ofBinary mantissa exponent).low ≠ 0 := by
    refine Nat.mul_ne_zero ?_ hunit
    split <;> omega
  refine firstGrid_digits hlow 17 ?_
  by_cases hsmall : (Interval.ofBinary mantissa exponent).value <
      (Interval.ofBinary mantissa exponent).den
  · exact .inr (magnitude_le hsmall)
  · exact .inl (Nat.div_pos (Nat.not_lt.1 hsmall) (Nat.pos_of_ne_zero hden)).ne'

end Decimal

/-! ### Their literals -/

namespace Json

open Decimal

namespace Token

/-- A text is read as one number, with a sign in front and without. -/
def IsMagnitude (text : List Char) : Prop :=
  numberLiteral? text = some (text, []) ∧ numberLiteral? ('-' :: text) = some ('-' :: text, [])

/-- A number is read from its parts: the digits before the point, the point with the digits behind
    it, and the exponent. -/
theorem isMagnitude_of_parts {whole fraction exponent : List Char}
    (hwhole : wholePart? whole = some (whole, []))
    (hfraction : fractionPart? (fraction ++ exponent) = some (fraction, exponent))
    (hexponent : exponentPart? exponent = some (exponent, []))
    (hrest : NoDigit (fraction ++ exponent)) : IsMagnitude (whole ++ (fraction ++ exponent)) := by
  have hall : wholePart? (whole ++ (fraction ++ exponent)) = some (whole, fraction ++ exponent) :=
    wholePart?_append hrest hwhole
  have hsign : (whole ++ (fraction ++ exponent)).head? ≠ some '-' := by
    intro hhead
    obtain ⟨rest, htext⟩ := List.head?_eq_some_iff.1 hhead
    rw [htext, wholePart?, digits_eq, List.takeWhile_cons_of_neg (by decide)] at hall
    · cases hall
    · intro _ heq
      cases heq
  constructor
  · rw [numberLiteral?, if_neg hsign, List.splitAt_eq]
    simp [hall, hfraction, hexponent]
  · rw [numberLiteral?, List.head?_cons, if_pos rfl, List.splitAt_eq]
    simp [hall, hfraction, hexponent]

theorem noDigit_nil : NoDigit [] := by
  rintro _ ⟨⟩

theorem noDigit_point {rest : List Char} : NoDigit ('.' :: rest) := by
  rintro _ ⟨⟩
  rfl

theorem noDigit_exponentPart (exponent : Int) : NoDigit (exponentPart exponent) := by
  rintro _ ⟨⟩
  rfl

theorem fractionPart?_digits {fraction rest : List Char} (hfraction : ∀ c ∈ fraction, c.isDigit)
    (hne : fraction ≠ []) (hrest : NoDigit rest) :
    fractionPart? ('.' :: fraction ++ rest) = some ('.' :: fraction, rest) := by
  rw [List.cons_append, fractionPart?, digits_append hrest, digits_of_isDigit hfraction]
  simp [hne]

theorem exponentPart?_exponentPart (exponent : Int) :
    exponentPart? (exponentPart exponent) = some (exponentPart exponent, []) := by
  have hdigits : digits (Nat.toDigits 10 exponent.natAbs) = (Nat.toDigits 10 exponent.natAbs, []) :=
    digits_of_isDigit fun _ => isDigit_of_mem_toDigits
  rw [exponentPart]
  split_ifs <;> simp [exponentPart?, hdigits, Nat.toDigits_ne_nil]

/-- The digits of a natural number and zeros behind them, but none in front. -/
theorem wholePart?_digits {whole : List Char} (hwhole : ∀ c ∈ whole, c.isDigit) (hne : whole ≠ [])
    (hzero : whole.head? = some '0' → whole = ['0']) : wholePart? whole = some (whole, []) := by
  by_cases hhead : whole.head? = some '0'
  · rw [hzero hhead]
    rfl
  · rw [wholePart?, digits_of_isDigit hwhole]
    · simp [hne]
    · rintro _ rfl
      exact hhead rfl

/-- A number with a point between its digits. -/
theorem isMagnitude_pointed {whole fraction : List Char}
    (hwhole : wholePart? whole = some (whole, [])) (hfraction : ∀ c ∈ fraction, c.isDigit)
    (hne : fraction ≠ []) : IsMagnitude (whole ++ '.' :: fraction) := by
  have hnothing : exponentPart? [] = some ([], []) := rfl
  have hparts := isMagnitude_of_parts hwhole (fractionPart?_digits hfraction hne noDigit_nil)
    hnothing noDigit_point
  rwa [List.append_nil] at hparts

/-- A number with one digit before the point, unless this is its only digit, and an exponent. -/
theorem isMagnitude_scientific {digits : List Char} (hdigits : ∀ c ∈ digits, c.isDigit)
    (hne : digits ≠ []) (exponent : Int) :
    IsMagnitude (digits.take 1 ++ (if digits.length = 1 then [] else '.' :: digits.drop 1) ++
      exponentPart exponent) := by
  obtain ⟨first, rest, rfl⟩ := List.exists_cons_of_ne_nil hne
  obtain ⟨hfirst, hrest⟩ := List.forall_mem_cons.1 hdigits
  have hwhole : wholePart? [first] = some ([first], []) := by
    refine wholePart?_digits (List.forall_mem_singleton.2 hfirst) (List.cons_ne_nil _ _) ?_
    exact fun hhead => congrArg (· :: []) (Option.some.inj hhead)
  have hexponent := exponentPart?_exponentPart exponent
  have hend := noDigit_exponentPart exponent
  rw [List.append_assoc]
  split_ifs with hsingle
  · exact isMagnitude_of_parts hwhole (fractionPart?_of_ne (by rintro _ ⟨⟩; decide)) hexponent hend
  · have hrestNe : rest ≠ [] := by
      rintro rfl
      exact hsingle rfl
    exact isMagnitude_of_parts hwhole (fractionPart?_digits hrest hrestNe hend) hexponent
      noDigit_point

end Token

/-- The digits of a natural number have a zero in front only if they are just this. -/
theorem toDigits_eq_of_head? {n : Nat} (h : (Nat.toDigits 10 n).head? = some '0') :
    n = 0 ∧ Nat.toDigits 10 n = ['0'] := by
  obtain rfl : n = 0 := by_contra fun hne => Token.head?_toDigits hne h
  exact ⟨rfl, rfl⟩

theorem isDigit_of_mem_zeros {count : Int} {c : Char} (h : c ∈ zeros count) : c.isDigit := by
  rw [List.eq_of_mem_replicate h]
  decide

/-- A decimal is read as one number, unless it has a zero in front of other zeros. -/
theorem isMagnitude_write (layout : Layout) {d : Scientific}
    (h : d.digits ≠ 0 ∨ d.exponent ≤ 0) : Token.IsMagnitude (layout.write d) := by
  have hdigits : ∀ c ∈ Nat.toDigits 10 d.digits, c.isDigit := fun _ => isDigit_of_mem_toDigits
  have hne : Nat.toDigits 10 d.digits ≠ [] := Nat.toDigits_ne_nil
  have hzero := toDigits_eq_of_head? (n := d.digits)
  rw [Layout.write]
  dsimp only
  generalize Nat.toDigits 10 d.digits = digits at hdigits hne hzero ⊢
  split
  · split_ifs with hinteger hbetween
    · -- zeros stand behind the digits, and the fraction is a zero
      have hwhole : Token.wholePart? (digits ++ zeros d.exponent) =
          some (digits ++ zeros d.exponent, []) := by
        refine Token.wholePart?_digits ?_ (List.append_ne_nil_of_left_ne_nil hne _) fun hhead => ?_
        · exact List.forall_mem_append.2 ⟨hdigits, fun _ => isDigit_of_mem_zeros⟩
        · rw [List.head?_append_of_ne_nil _ hne] at hhead
          obtain ⟨hnone, rfl⟩ := hzero hhead
          have hexponent : d.exponent = 0 := by omega
          rw [hexponent]
          rfl
      exact Token.isMagnitude_pointed hwhole (by simp) (List.cons_ne_nil _ _)
    · -- the point stands between the digits
      generalize hplaces : (digits.length + d.exponent).toNat = places
      have hwhole : Token.wholePart? (digits.take places) = some (digits.take places, []) := by
        have htaken : digits.take places ≠ [] := by
          rw [Ne, List.take_eq_nil_iff, not_or]
          exact ⟨by omega, hne⟩
        refine Token.wholePart?_digits (fun c hc => hdigits c (List.mem_of_mem_take hc)) htaken ?_
        intro hhead
        rw [List.head?_take, if_neg (by omega)] at hhead
        obtain ⟨-, rfl⟩ := hzero hhead
        rw [List.length_singleton] at hbetween
        omega
      have hdropped : digits.drop places ≠ [] := by
        rw [Ne, List.drop_eq_nil_iff]
        omega
      rw [List.append_assoc]
      exact Token.isMagnitude_pointed hwhole (fun c hc => hdigits c (List.mem_of_mem_drop hc))
        hdropped
    · -- all digits stand behind the point
      have hwhole : Token.wholePart? ['0'] = some (['0'], []) := rfl
      have hfraction : ∀ c ∈ zeros (-(digits.length + d.exponent)) ++ digits, c.isDigit :=
        List.forall_mem_append.2 ⟨fun _ => isDigit_of_mem_zeros, hdigits⟩
      have hpointed := Token.isMagnitude_pointed hwhole hfraction
        (List.append_ne_nil_of_right_ne_nil _ hne)
      rwa [List.append_assoc]
  · exact Token.isMagnitude_scientific hdigits hne _

/-- What stands for a floating-point number is read as one number, or as `null`. -/
theorem legible_ofFloat (x : Float) : (ofFloat x).Legible := by
  intro token htoken
  rw [ofFloat, floatLiteral?] at htoken
  cases hfloat : Binary64.ofFloat x with
  | nan =>
    rw [hfloat] at htoken
    rw [List.mem_singleton.1 htoken]
    exact trivial
  | infinite negative =>
    rw [hfloat] at htoken
    rw [List.mem_singleton.1 htoken]
    exact trivial
  | finite negative mantissa exponent =>
    rw [hfloat] at htoken
    rw [List.mem_singleton.1 htoken]
    have hmagnitude : Token.IsMagnitude (if mantissa = 0 then ['0', '.', '0']
        else numberLayout.write (shortest mantissa exponent)) := by
      split_ifs with hzero
      · exact ⟨rfl, rfl⟩
      · exact isMagnitude_write _ (shortest_digits hzero exponent)
    dsimp only [Token.Legible]
    rw [String.toList_ofList]
    cases negative
    · exact hmagnitude.1
    · exact hmagnitude.2

end Json

end Offload
