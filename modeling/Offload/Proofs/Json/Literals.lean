import Offload.Config.Data
import Mathlib.Data.List.TakeDrop
import Mathlib.Data.List.TakeWhile

/-!
# Literals

What is written as the literal of a text or of an integer is read as that text or integer.

* Texts: `unescape?_escape`, whatever characters the text holds, and `stringLiteral?_escape`, which
  finds the end of the literal at the quote behind it and not before.
* Numbers: `numberLiteral?_append`. A number is read up to the first character that cannot carry it
  on (`Ends`), so what is read does not depend on the text behind.
* Integers: `asInteger?_ofNat` and `asInteger?_ofInt`, and from them the words that the members of
  a configuration hold. All are exact: no integer is taken through a rounded number.
-/

namespace Offload

/-! ### Plain integers -/

namespace Decimal

theorem isDigit_of_mem_toDigits {c : Char} {n : Nat} (h : c ∈ Nat.toDigits 10 n) : c.isDigit :=
  Nat.isDigit_of_mem_toDigits (by decide) (by decide) h

theorem digitsValue?_toDigits (n : Nat) : digitsValue? (Nat.toDigits 10 n) = some n := by
  have hdigits : (Nat.toDigits 10 n).all Char.isDigit :=
    List.all_eq_true.2 fun _ h => isDigit_of_mem_toDigits h
  have hvalue : (Nat.toDigits 10 n).foldl (fun n c => 10 * n + (c.toNat - 48)) 0 = n :=
    Nat.ofDigitChars_toDigits (by decide) (by decide)
  rw [digitsValue?, hvalue, if_pos (by simp [hdigits, Nat.toDigits_ne_nil])]

theorem word?_toNat (n : UInt64) : word? n.toNat = some n := by
  have hlt : n.toNat < UInt64.size := n.toNat_lt_size
  rw [word?, if_pos ⟨by omega, by omega⟩]
  simp

theorem int32?_toInt (n : Int32) : int32? n.toInt = some n := by
  rw [int32?, if_pos ⟨n.minValue_le_toInt, n.toInt_le⟩, Int32.ofInt_toInt]

end Decimal

namespace Json

/-! ### Texts -/

theorem hexValue?_hexDigits : ∀ n < 16, hexValue? (hexDigits.getD n '0') = some n := by
  decide

theorem codeUnit?_hexDigits {n : Nat} (h : n < 256) :
    codeUnit? '0' '0' (hexDigits.getD (n / 16) '0') (hexDigits.getD (n % 16) '0') = some n := by
  have hhigh := hexValue?_hexDigits (n / 16) (by omega)
  have hlow := hexValue?_hexDigits (n % 16) (by omega)
  have hzero : hexValue? '0' = some 0 := by decide
  rw [codeUnit?, hhigh, hlow, hzero]
  simp only [Option.bind_eq_bind, Option.bind_some, Option.pure_def, Option.some.injEq]
  omega

/-- A character with a short escape is read from it, and the letter is not that of a number. -/
theorem unescapeLetter?_shortEscape {c letter : Char} (h : shortEscape? c = some letter) :
    unescapeLetter? letter = some c ∧ letter ≠ 'u' := by
  unfold shortEscape? at h
  split_ifs at h with h₁ h₂ h₃ h₄ h₅ h₆ h₇ <;> cases h <;> subst c <;> decide

theorem ne_of_shortEscape_none {c : Char} (h : shortEscape? c = none) : c ≠ '"' ∧ c ≠ '\\' := by
  constructor <;> (rintro rfl; exact absurd h (by decide))

theorem toNat_lt_of_lt_space {c : Char} (h : c < ' ') : c.toNat < 32 := h

theorem unescape?_letter {letter c : Char} (h : unescapeLetter? letter = some c)
    (hne : letter ≠ 'u') (rest : List Char) :
    unescape? ('\\' :: letter :: rest) = (unescape? rest).map (c :: ·) := by
  rw [unescape?, h]
  · cases unescape? rest <;> rfl
  · intro _ _ _ _ _ heq
    exact absurd heq hne

/-- The number of a character below the surrogates. -/
theorem unescape?_unit {a b c d : Char} {n : Nat} (h : codeUnit? a b c d = some n)
    (hlt : n < 0xD800) (rest : List Char) :
    unescape? ('\\' :: 'u' :: a :: b :: c :: d :: rest) =
      (unescape? rest).map (Char.ofNat n :: ·) := by
  have hhigh : isHighSurrogate n = false := by simp [isHighSurrogate]; omega
  have hlow : isLowSurrogate n = false := by simp [isLowSurrogate]; omega
  rw [unescape?, h, Option.bind_eq_bind, Option.bind_some, hhigh, hlow]
  cases unescape? rest <;> rfl

/-- A literal is read character by character. -/
theorem unescape?_escapeChar (c : Char) (rest : List Char) :
    unescape? (escapeChar c ++ rest) = (unescape? rest).map (c :: ·) := by
  rw [escapeChar]
  cases hshort : shortEscape? c with
  | some letter =>
    obtain ⟨hletter, hne⟩ := unescapeLetter?_shortEscape hshort
    exact unescape?_letter hletter hne rest
  | none =>
    obtain ⟨hquote, hslash⟩ := ne_of_shortEscape_none hshort
    by_cases hcontrol : c < ' '
    · have hlt := toNat_lt_of_lt_space hcontrol
      have hunit := codeUnit?_hexDigits (n := c.toNat) (by omega)
      simp only [if_pos hcontrol, List.cons_append, List.nil_append]
      rw [unescape?_unit hunit (by omega), Char.ofNat_toNat]
    · simp [unescape?, hcontrol, hquote, hslash]

theorem unescape?_escape (text : List Char) : unescape? (escape text) = some text := by
  induction text with
  | nil => rfl
  | cons c text ih =>
    rw [escape, List.flatMap_cons, unescape?_escapeChar, ← escape, ih, Option.map_some]

/-! ### Strings in a text -/

namespace Token

theorem stringLiteral?_letter {letter : Char} (h : (unescapeLetter? letter).isSome)
    (rest : List Char) :
    stringLiteral? ('\\' :: letter :: rest) =
      (stringLiteral? rest).map fun (literal, rest) => ('\\' :: letter :: literal, rest) := by
  rw [stringLiteral?, if_pos h]
  rintro _ _ _ _ _ rfl
  exact absurd h (by decide)

theorem stringLiteral?_plain {c : Char} (hcontrol : ¬c < ' ') (hquote : c ≠ '"') (hslash : c ≠ '\\')
    (rest : List Char) :
    stringLiteral? (c :: rest) =
      (stringLiteral? rest).map fun (literal, rest) => (c :: literal, rest) := by
  rw [stringLiteral?, if_neg (by simp [hcontrol, hslash])]
  · exact hquote
  · rintro _ _ _ _ _ rfl
    exact absurd rfl hslash
  · rintro _ _ rfl
    exact absurd rfl hslash

theorem stringLiteral?_escapeChar (c : Char) (rest : List Char) :
    stringLiteral? (escapeChar c ++ rest) =
      (stringLiteral? rest).map fun (literal, rest) => (escapeChar c ++ literal, rest) := by
  rw [escapeChar]
  cases hshort : shortEscape? c with
  | some letter =>
    obtain ⟨hletter, -⟩ := unescapeLetter?_shortEscape hshort
    exact stringLiteral?_letter (Option.isSome_of_eq_some hletter) rest
  | none =>
    obtain ⟨hquote, hslash⟩ := ne_of_shortEscape_none hshort
    by_cases hcontrol : c < ' '
    · have hlt := toNat_lt_of_lt_space hcontrol
      have hunit := codeUnit?_hexDigits (n := c.toNat) (by omega)
      simp only [if_pos hcontrol, List.cons_append, List.nil_append]
      rw [stringLiteral?, if_pos (Option.isSome_of_eq_some hunit)]
    · simp only [if_neg hcontrol, List.cons_append, List.nil_append]
      exact stringLiteral?_plain hcontrol hquote hslash rest

/-- The literal of a text ends at the quote behind it. -/
theorem stringLiteral?_escape (text rest : List Char) :
    stringLiteral? (escape text ++ '"' :: rest) = some (escape text, rest) := by
  induction text with
  | nil => rfl
  | cons c text ih =>
    have hcons : escape (c :: text) = escapeChar c ++ escape text := List.flatMap_cons
    rw [hcons, List.append_assoc, stringLiteral?_escapeChar, ih, Option.map_some]

/-- The text behind a string literal has no say in what is read. -/
theorem stringLiteral?_append {text literal rest : List Char}
    (h : stringLiteral? text = some (literal, rest)) (more : List Char) :
    stringLiteral? (text ++ more) = some (literal, rest ++ more) := by
  fun_induction stringLiteral? text generalizing literal with
  | case1 => cases h
  | case2 rest => cases h; rfl
  | case3 a b c d rest hunit ih =>
    obtain ⟨⟨found, rest'⟩, hfound, heq⟩ := Option.map_eq_some_iff.1 h
    cases heq
    simp only [List.cons_append]
    rw [stringLiteral?, if_pos hunit, ih hfound, Option.map_some]
  | case4 => cases h
  | case5 letter rest _ hletter ih =>
    obtain ⟨⟨found, rest'⟩, hfound, heq⟩ := Option.map_eq_some_iff.1 h
    cases heq
    simp only [List.cons_append]
    rw [stringLiteral?_letter hletter, ih hfound, Option.map_some]
  | case6 => cases h
  | case7 => cases h
  | case8 c rest hquote _ _ hplain ih =>
    obtain ⟨⟨found, rest'⟩, hfound, heq⟩ := Option.map_eq_some_iff.1 h
    cases heq
    rw [not_or] at hplain
    rw [List.cons_append, stringLiteral?_plain hplain.1 hquote hplain.2, ih hfound,
      Option.map_some]

/-! ### Numbers in a text -/

/-- Nothing here could carry on a number that stands in front. -/
def Ends (text : List Char) : Prop :=
  ∀ c ∈ text.head?, ('0' ≤ c && c ≤ '9') = false ∧ c ≠ '.' ∧ c ≠ 'e' ∧ c ≠ 'E'

/-- No digit stands in front. -/
def NoDigit (text : List Char) : Prop :=
  ∀ c ∈ text.head?, ('0' ≤ c && c ≤ '9') = false

theorem Ends.noDigit {text : List Char} (h : Ends text) : NoDigit text := fun c hc => (h c hc).1

theorem digits_eq (text : List Char) :
    digits text = (text.takeWhile fun c => '0' ≤ c && c ≤ '9',
      text.dropWhile fun c => '0' ≤ c && c ≤ '9') :=
  List.span_eq_takeWhile_dropWhile _ text

theorem NoDigit.digits_eq {text : List Char} (h : NoDigit text) : digits text = ([], text) := by
  cases text with
  | nil => rfl
  | cons c text =>
    have hc := h c rfl
    rw [Token.digits_eq, List.takeWhile_cons_of_neg (by simp [hc]),
      List.dropWhile_cons_of_neg (by simp [hc])]

theorem digits_append {more : List Char} (h : NoDigit more) (text : List Char) :
    digits (text ++ more) = ((digits text).1, (digits text).2 ++ more) := by
  induction text with
  | nil => exact h.digits_eq
  | cons c text ih =>
    simp only [digits_eq, Prod.mk.injEq] at ih ⊢
    by_cases hc : ('0' ≤ c && c ≤ '9') = true
    · simpa [hc] using ih
    · simp [hc]

theorem wholePart?_append {text whole rest more : List Char} (hmore : NoDigit more)
    (h : wholePart? text = some (whole, rest)) :
    wholePart? (text ++ more) = some (whole, rest ++ more) := by
  cases text with
  | nil => cases h
  | cons c text =>
    by_cases hzero : c = '0'
    · subst hzero
      cases h
      rfl
    · have hwhole (text : List Char) : wholePart? (c :: text) =
          if (digits (c :: text)).1.isEmpty then none else some (digits (c :: text)) := by
        rw [wholePart?]
        rintro _ heq
        exact hzero (List.cons.inj heq).1
      rw [hwhole] at h
      split_ifs at h with hempty
      have hdigits : digits (c :: text) = (whole, rest) := Option.some.inj h
      rw [List.cons_append, hwhole, ← List.cons_append, digits_append hmore, if_neg hempty,
        hdigits]

theorem fractionPart?_of_ne {text : List Char} (h : ∀ c ∈ text.head?, c ≠ '.') :
    fractionPart? text = some ([], text) := by
  rw [fractionPart?]
  rintro _ rfl
  exact h _ rfl rfl

theorem fractionPart?_append {text fraction rest more : List Char} (hmore : Ends more)
    (h : fractionPart? text = some (fraction, rest)) :
    fractionPart? (text ++ more) = some (fraction, rest ++ more) := by
  cases text with
  | nil =>
    cases h
    exact fractionPart?_of_ne fun c hc => (hmore c hc).2.1
  | cons c text =>
    by_cases hpoint : c = '.'
    · subst hpoint
      rw [fractionPart?] at h
      rw [List.cons_append, fractionPart?, digits_append hmore.noDigit]
      dsimp only at h ⊢
      split_ifs at h ⊢ with hempty
      cases h
      rfl
    · rw [fractionPart?_of_ne (by simpa using hpoint)] at h
      cases h
      exact fractionPart?_of_ne (by simpa using hpoint)

theorem splitAt_append {text : List Char} (more : List Char) {n : Nat} (h : n ≤ text.length) :
    (text ++ more).splitAt n = ((text.splitAt n).1, (text.splitAt n).2 ++ more) := by
  rw [List.splitAt_eq, List.splitAt_eq, List.take_append_of_le_length h,
    List.drop_append_of_le_length h]

theorem exponentPart?_append {text exponent rest more : List Char} (hmore : Ends more)
    (h : exponentPart? text = some (exponent, rest)) :
    exponentPart? (text ++ more) = some (exponent, rest ++ more) := by
  cases text with
  | nil =>
    cases h
    cases more with
    | nil => rfl
    | cons c more =>
      have hmark := (hmore c rfl).2.2
      rw [List.nil_append, exponentPart?, if_neg (by simpa using hmark)]
  | cons mark text =>
    rw [exponentPart?] at h
    rw [List.cons_append, exponentPart?]
    split_ifs at h ⊢ with hmark
    · cases text with
      | nil => simp [digits] at h
      | cons c text =>
        have hhead : (c :: text ++ more).head? = (c :: text).head? := rfl
        rw [hhead]
        dsimp only at h ⊢
        -- what counts of the sign is that it does not reach into the text behind
        obtain ⟨n, hn, hsign⟩ : ∃ n,
            (if (c :: text).head? = some '+' ∨ (c :: text).head? = some '-' then 1 else 0) = n ∧
              n ≤ (c :: text).length :=
          ⟨_, rfl, by rw [List.length_cons]; split <;> omega⟩
        rw [hn] at h ⊢
        rw [splitAt_append more hsign]
        dsimp only
        rw [digits_append hmore.noDigit]
        split_ifs at h ⊢ with hempty
        cases h
        rfl
    · cases h
      rfl

/-- The text behind a number has no say in what is read, unless it carries on the number. -/
theorem numberLiteral?_append {text literal rest more : List Char} (hmore : Ends more)
    (h : numberLiteral? text = some (literal, rest)) :
    numberLiteral? (text ++ more) = some (literal, rest ++ more) := by
  cases text with
  | nil => cases h
  | cons c text =>
    rw [numberLiteral?] at h ⊢
    have hhead : (c :: text ++ more).head? = (c :: text).head? := rfl
    rw [hhead, splitAt_append _ (by rw [List.length_cons]; split <;> omega)]
    simp only [Option.bind_eq_bind, Option.bind_eq_some_iff] at h ⊢
    obtain ⟨⟨whole, text₁⟩, hwhole, ⟨fraction, text₂⟩, hfraction, ⟨exponent, text₃⟩, hexponent,
      heq⟩ := h
    cases heq
    exact ⟨_, wholePart?_append hmore.noDigit hwhole, _, fractionPart?_append hmore hfraction,
      _, exponentPart?_append hmore hexponent, rfl⟩

/-! ### Integers in a text -/

theorem digits_of_isDigit {text : List Char} (h : ∀ c ∈ text, c.isDigit) :
    digits text = (text, []) := by
  have h : ∀ c ∈ text, ('0' ≤ c && c ≤ '9') = true := h
  rw [digits_eq, List.takeWhile_eq_self_iff.2 h, List.dropWhile_eq_nil_iff.2 h]

/-- Only zero is written with a zero in front. -/
theorem head?_toDigits {n : Nat} (h : n ≠ 0) : (Nat.toDigits 10 n).head? ≠ some '0' := by
  induction n using Nat.strongRecOn with
  | ind n ih =>
    rw [Nat.toDigits_eq_if (by decide)]
    split_ifs with hlt
    · have hdigit : ∀ n < 10, n ≠ 0 → n.digitChar ≠ '0' := by decide
      simpa using hdigit n hlt h
    · rw [List.head?_append, Option.or_of_isSome (by simp [Nat.toDigits_ne_nil])]
      exact ih (n / 10) (by omega) (by omega)

theorem wholePart?_toDigits (n : Nat) :
    wholePart? (Nat.toDigits 10 n) = some (Nat.toDigits 10 n, []) := by
  by_cases hzero : n = 0
  · subst hzero
    rfl
  · rw [wholePart?, digits_of_isDigit fun _ => Decimal.isDigit_of_mem_toDigits]
    · simp [Nat.toDigits_ne_nil]
    · intro _ heq
      exact head?_toDigits hzero (by rw [heq]; rfl)

theorem numberLiteral?_toDigits (n : Nat) :
    numberLiteral? (Nat.toDigits 10 n) = some (Nat.toDigits 10 n, []) := by
  have hsign : (Nat.toDigits 10 n).head? ≠ some '-' := fun h =>
    absurd (Decimal.isDigit_of_mem_toDigits (List.mem_of_head? h)) (by decide)
  rw [numberLiteral?, if_neg hsign, List.splitAt_eq]
  simp only [List.drop_zero, wholePart?_toDigits]
  simp [fractionPart?, exponentPart?]

theorem numberLiteral?_neg_toDigits (n : Nat) :
    numberLiteral? ('-' :: Nat.toDigits 10 n) = some ('-' :: Nat.toDigits 10 n, []) := by
  rw [numberLiteral?, List.head?_cons, if_pos rfl, List.splitAt_eq]
  simp only [List.drop_succ_cons, List.drop_zero, wholePart?_toDigits]
  simp [fractionPart?, exponentPart?]

end Token

/-! ### Members of a configuration -/

theorem asText?_ofText (text : String) : (ofText text).asText? = some text := by
  rw [ofText, asText?, unescape?_escape, Option.map_some, String.ofList_toList]

theorem toList_toString (n : Nat) : (toString n).toList = Nat.toDigits 10 n := by
  rw [Nat.toString_eq_ofList_toDigits, String.toList_ofList]

theorem ofInt_negSucc (n : Nat) :
    ofInt (Int.negSucc n) = number ('-' :: Nat.toDigits 10 (n + 1)) := by
  rw [ofInt, Int.toString_eq_repr, Int.repr]
  simp

theorem asInteger?_ofNat (n : Nat) : (ofNat n).asInteger? = some (n : Int) := by
  rw [ofNat, toList_toString, asInteger?, Decimal.digitsValue?_toDigits, Option.map_some]
  · rfl
  · intro digits heq
    have hsign : '-' ∈ Nat.toDigits 10 n := by simp [heq]
    exact absurd (Decimal.isDigit_of_mem_toDigits hsign) (by decide)

theorem asInteger?_ofInt (n : Int) : (ofInt n).asInteger? = some n := by
  cases n with
  | ofNat n => exact asInteger?_ofNat n
  | negSucc n =>
    rw [ofInt_negSucc, asInteger?, Decimal.digitsValue?_toDigits]
    rfl

theorem asUInt64?_ofNat (n : UInt64) : (ofNat n.toNat).asUInt64? = some n := by
  rw [asUInt64?, asInteger?_ofNat, Option.bind_some, Decimal.word?_toNat]

theorem asInt32?_ofInt (n : Int32) : (ofInt n.toInt).asInt32? = some n := by
  rw [asInt32?, asInteger?_ofInt, Option.bind_some, Decimal.int32?_toInt]

end Json

end Offload
