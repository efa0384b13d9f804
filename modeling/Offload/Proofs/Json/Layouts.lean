import Offload.Proofs.Json.Literals
import Mathlib.Data.List.Chain

/-!
# Layouts

A *layout* of a value puts blanks before the tokens of the value (`Json.IsLayout`): none at all in
`Json.compact`, new lines and indentation in `Json.pretty`. Main statement: a value whose literals
are well formed (`Json.Legible`) is read back from each of its layouts (`Json.parse?_layout`).

Reading a layout is scanning it, which drops the blanks (`Token.scan?_laidOut`), and reading the
value from its tokens (`ofTokens?_tokens`). Only two numbers in a row would run into each other,
and no value has them (`isChain_tokens`).
-/

namespace Offload.Json

namespace Token

variable {token : Token} {c : Char} {rest after : List Char}

/-! ### Single tokens -/

/-- The literal of the token is one. -/
def Legible : Token → Prop
  | number literal => numberLiteral? literal = some (literal, [])
  | string literal => stringLiteral? (literal ++ ['"']) = some (literal, [])
  | _ => True

/-- The token is a number. -/
def isNumber : Token → Bool
  | number _ => true
  | _ => false

theorem numberLiteral?_eq_none (hdigit : ('0' ≤ c && c ≤ '9') = false) (hsign : c ≠ '-') :
    numberLiteral? (c :: rest) = none := by
  have hzero : c ≠ '0' := by
    rintro rfl
    exact absurd hdigit (by decide)
  have hwhole : wholePart? (c :: rest) = none := by
    rw [wholePart?, digits_eq, List.takeWhile_cons_of_neg (by simp [hdigit])]
    · rfl
    · intro _ heq
      exact hzero (List.cons.inj heq).1
  rw [numberLiteral?, if_neg (by simpa using hsign), List.splitAt_eq]
  simp [hwhole]

theorem next?_of_numberLiteral? {text literal : List Char}
    (h : numberLiteral? text = some (literal, rest)) :
    next? text = some (number literal, rest) := by
  have hhead : ∀ c rest, text = c :: rest → ('0' ≤ c && c ≤ '9') = true ∨ c = '-' := by
    rintro c rest rfl
    by_contra hc
    rw [not_or, Bool.not_eq_true] at hc
    rw [numberLiteral?_eq_none hc.1 hc.2] at h
    cases h
  fun_cases next? text
  case case11 => rw [h, Option.map_some]
  all_goals
    rename_i rest
    exact absurd (hhead _ _ rfl) (by decide)

theorem next?_text (h : token.Legible) (hrest : token.isNumber → Ends rest) :
    next? (token.text ++ rest) = some (token, rest) := by
  cases token with
  | number literal => exact next?_of_numberLiteral? (numberLiteral?_append (hrest rfl) h)
  | string literal =>
    have hliteral : stringLiteral? (literal ++ '"' :: rest) = some (literal, rest) := by
      simpa using stringLiteral?_append h rest
    simp [text, next?, hliteral]
  | bool value => cases value <;> rfl
  | _ => rfl

theorem eq_of_isSpace (h : isSpace c) : c = ' ' ∨ c = '\n' ∨ c = '\t' ∨ c = '\r' := by
  simpa [isSpace, or_assoc] using h

/-- A token starts with a character that is no blank. -/
theorem exists_text_eq (h : token.Legible) :
    ∃ c rest, token.text = c :: rest ∧ isSpace c = false := by
  cases token with
  | number literal =>
    cases literal with
    | nil => cases h
    | cons c literal =>
      refine ⟨c, literal, rfl, ?_⟩
      by_contra hspace
      rw [Bool.not_eq_false] at hspace
      have hnone : numberLiteral? (c :: literal) = none := by
        rcases eq_of_isSpace hspace with rfl | rfl | rfl | rfl <;>
          exact numberLiteral?_eq_none (by decide) (by decide)
      cases hnone.symm.trans h
  | string literal => exact ⟨'"', _, rfl, by decide⟩
  | bool value => cases value <;> exact ⟨_, _, rfl, by decide⟩
  | _ => exact ⟨_, _, rfl, by decide⟩

theorem ends_cons (h : ('0' ≤ c && c ≤ '9') = false ∧ c ≠ '.' ∧ c ≠ 'e' ∧ c ≠ 'E') :
    Ends (c :: rest) := by
  rintro c ⟨⟩
  exact h

theorem ends_of_isSpace (h : isSpace c) : Ends (c :: rest) := by
  rcases eq_of_isSpace h with rfl | rfl | rfl | rfl <;> exact ends_cons (by decide)

theorem ends_text (h : ¬token.isNumber) : Ends (token.text ++ rest) := by
  cases token with
  | number literal => exact absurd rfl h
  | bool value => cases value <;> exact ends_cons (by decide)
  | _ => exact ends_cons (by decide)

/-! ### Texts made of tokens -/

/-- The text consists of these tokens, with blanks anywhere between them. -/
inductive IsLayout : List Token → List Char → Prop
  | nil {blanks : List Char} : (∀ c ∈ blanks, isSpace c) → IsLayout [] blanks
  | cons {before : List Char} {token : Token} {tokens : List Token} {text : List Char} :
    (∀ c ∈ before, isSpace c) → IsLayout tokens text →
      IsLayout (token :: tokens) (before ++ token.text ++ text)

/-- At most one of the two is a number. -/
def Apart (first second : Token) : Prop := ¬(first.isNumber ∧ second.isNumber)

theorem scanUpTo_text {before : List Char} (hbefore : ∀ c ∈ before, isSpace c)
    (htoken : token.Legible) (hrest : token.isNumber → Ends rest) (bound : Nat) :
    scanUpTo (bound + 1) (before ++ token.text ++ rest) =
      (scanUpTo bound rest).map (token :: ·) := by
  obtain ⟨c, tail, htext, hc⟩ := exists_text_eq htoken
  have hdrop : (before ++ token.text ++ rest).dropWhile isSpace = c :: (tail ++ rest) := by
    rw [List.append_assoc, List.dropWhile_append_of_pos hbefore, htext, List.cons_append,
      List.dropWhile_cons_of_neg (by simp [hc])]
  have hnext : next? (c :: (tail ++ rest)) = some (token, rest) := by
    rw [← List.cons_append, ← htext]
    exact next?_text htoken hrest
  rw [scanUpTo, hdrop]
  simp only [hnext, Option.bind_eq_bind, Option.bind_some]
  cases scanUpTo bound rest <;> rfl

namespace IsLayout

variable {tokens : List Token} {text : List Char}

/-- What stands behind a number is no part of it, unless it is another number. -/
theorem ends (h : IsLayout tokens text) (hhead : ∀ token ∈ tokens.head?, ¬token.isNumber) :
    Ends text := by
  cases h with
  | nil hblanks =>
    cases text with
    | nil =>
      intro c hc
      cases hc
    | cons c text => exact ends_of_isSpace (hblanks c List.mem_cons_self)
  | @cons before token tokens text hbefore =>
    rw [List.append_assoc]
    cases before with
    | nil => exact ends_text (hhead token rfl)
    | cons c before => exact ends_of_isSpace (hbefore c List.mem_cons_self)

theorem length_le (h : IsLayout tokens text) (hlegible : ∀ token ∈ tokens, token.Legible) :
    tokens.length ≤ text.length := by
  induction h with
  | nil => exact Nat.zero_le _
  | cons _ _ ih =>
    rw [List.forall_mem_cons] at hlegible
    obtain ⟨c, tail, htext, -⟩ := exists_text_eq hlegible.1
    have hle := ih hlegible.2
    simp only [htext, List.length_append, List.length_cons]
    omega

theorem scanUpTo_eq (h : IsLayout tokens text) (hlegible : ∀ token ∈ tokens, token.Legible)
    (hapart : tokens.IsChain Apart) {bound : Nat} (hbound : tokens.length ≤ bound) :
    scanUpTo bound text = some tokens := by
  induction h generalizing bound with
  | nil hblanks => rw [scanUpTo, List.dropWhile_eq_nil_iff.2 hblanks]
  | @cons before token tokens text hbefore hlayout ih =>
    rw [List.forall_mem_cons] at hlegible
    rw [List.isChain_cons] at hapart
    cases bound with
    | zero => cases hbound
    | succ bound =>
      have hends (hnumber : token.isNumber) : Ends text :=
        hlayout.ends fun next hnext hnext' => hapart.1 next hnext ⟨hnumber, hnext'⟩
      rw [scanUpTo_text hbefore hlegible.1 hends,
        ih hlegible.2 hapart.2 (Nat.le_of_succ_le_succ hbound), Option.map_some]

/-- Scanning takes the blanks away. -/
theorem scan?_eq (h : IsLayout tokens text) (hlegible : ∀ token ∈ tokens, token.Legible)
    (hapart : tokens.IsChain Apart) : scan? text = some tokens :=
  h.scanUpTo_eq hlegible hapart (h.length_le hlegible)

end IsLayout

end Token

/-! ### Values from tokens -/

variable {rest : List Token}

/-- No value starts with a closing bracket. -/
theorem tokens_ne_closeArray (value : Json) (rest tail : List Token) :
    value.tokens ++ rest ≠ .closeArray :: tail := by
  fun_cases tokens value <;> simp

mutual

theorem value?_tokens (rest : List Token) : (value : Json) → (bound : Nat) →
    value.tokens.length ≤ bound → value? bound (value.tokens ++ rest) = some (value, rest)
  | null, bound + 1, _ => rfl
  | bool _, bound + 1, _ => rfl
  | number _, bound + 1, _ => rfl
  | string _, bound + 1, _ => rfl
  | array [], bound + 1, _ => rfl
  | array (item :: items), bound + 1, h => by
    simp only [tokens, List.length_append, List.length_cons] at h
    have hitem := value?_tokens (itemTokens items ++ rest) item bound (by omega)
    have hitems := items?_itemTokens rest items bound (by omega)
    rw [tokens, List.cons_append, List.cons_append, List.append_assoc, value?, hitem]
    · simp [hitems]
    · exact tokens_ne_closeArray item _
  | object [], bound + 1, _ => rfl
  | object ((key, value) :: members), bound + 1, h => by
    simp only [tokens, List.length_append, List.length_cons] at h
    have hvalue := value?_tokens (memberTokens members ++ rest) value bound (by omega)
    have hmembers := members?_memberTokens rest members bound (by omega)
    simp [tokens, value?, hvalue, hmembers]

theorem items?_itemTokens (rest : List Token) : (items : List Json) → (bound : Nat) →
    (itemTokens items).length ≤ bound → items? bound (itemTokens items ++ rest) = some (items, rest)
  | [], bound + 1, _ => rfl
  | item :: items, bound + 1, h => by
    simp only [itemTokens, List.length_append, List.length_cons] at h
    have hitem := value?_tokens (itemTokens items ++ rest) item bound (by omega)
    have hitems := items?_itemTokens rest items bound (by omega)
    simp [itemTokens, items?, hitem, hitems]

theorem members?_memberTokens (rest : List Token) : (members : List (List Char × Json)) →
    (bound : Nat) → (memberTokens members).length ≤ bound →
    members? bound (memberTokens members ++ rest) = some (members, rest)
  | [], bound + 1, _ => rfl
  | (key, value) :: members, bound + 1, h => by
    simp only [memberTokens, List.length_append, List.length_cons] at h
    have hvalue := value?_tokens (memberTokens members ++ rest) value bound (by omega)
    have hmembers := members?_memberTokens rest members bound (by omega)
    simp [memberTokens, members?, hvalue, hmembers]

end

/-- A value is read back from its tokens. -/
theorem ofTokens?_tokens (value : Json) : ofTokens? value.tokens = some value := by
  have hvalue := value?_tokens [] value value.tokens.length (Nat.le_refl _)
  rw [List.append_nil] at hvalue
  rw [ofTokens?, hvalue]

/-! ### Numbers in a row -/

/-- A token that is no number can stand in front of all. -/
theorem isChain_cons {token : Token} (h : token.isNumber = false) {tokens : List Token}
    (htokens : tokens.IsChain Token.Apart) : (token :: tokens).IsChain Token.Apart :=
  List.isChain_cons.2 ⟨fun _ _ hboth => absurd (h.symm.trans hboth.1) Bool.false_ne_true, htokens⟩

mutual

/-- No two numbers of a value stand in a row. -/
theorem isChain_tokens (rest : List Token) (hrest : rest.IsChain Token.Apart)
    (hhead : ∀ token ∈ rest.head?, token.isNumber = false) :
    (value : Json) → (value.tokens ++ rest).IsChain Token.Apart
  | null => isChain_cons rfl hrest
  | bool _ => isChain_cons rfl hrest
  | number _ => List.isChain_cons.2
    ⟨fun token htoken hboth =>
      absurd ((hhead token htoken).symm.trans hboth.2) Bool.false_ne_true, hrest⟩
  | string _ => isChain_cons rfl hrest
  | array [] => isChain_cons rfl (isChain_cons rfl hrest)
  | array (item :: items) => by
    obtain ⟨hhead, hitems⟩ := isChain_itemTokens rest hrest items
    rw [tokens, List.cons_append, List.cons_append, List.append_assoc]
    exact isChain_cons rfl (isChain_tokens _ hitems hhead item)
  | object [] => isChain_cons rfl (isChain_cons rfl hrest)
  | object ((key, value) :: members) => by
    obtain ⟨hhead, hmembers⟩ := isChain_memberTokens rest hrest members
    simp only [tokens, List.cons_append, List.append_assoc]
    exact isChain_cons rfl (isChain_cons rfl (isChain_cons rfl
      (isChain_tokens _ hmembers hhead value)))

theorem isChain_itemTokens (rest : List Token) (hrest : rest.IsChain Token.Apart) :
    (items : List Json) → (∀ token ∈ (itemTokens items ++ rest).head?, token.isNumber = false) ∧
      (itemTokens items ++ rest).IsChain Token.Apart
  | [] => ⟨by rintro _ ⟨⟩; rfl, isChain_cons rfl hrest⟩
  | item :: items => by
    obtain ⟨hhead, hitems⟩ := isChain_itemTokens rest hrest items
    rw [itemTokens, List.cons_append, List.cons_append, List.append_assoc]
    exact ⟨by rintro _ ⟨⟩; rfl, isChain_cons rfl (isChain_tokens _ hitems hhead item)⟩

theorem isChain_memberTokens (rest : List Token) (hrest : rest.IsChain Token.Apart) :
    (members : List (List Char × Json)) →
      (∀ token ∈ (memberTokens members ++ rest).head?, token.isNumber = false) ∧
        (memberTokens members ++ rest).IsChain Token.Apart
  | [] => ⟨by rintro _ ⟨⟩; rfl, isChain_cons rfl hrest⟩
  | (key, value) :: members => by
    obtain ⟨hhead, hmembers⟩ := isChain_memberTokens rest hrest members
    simp only [memberTokens, List.cons_append, List.append_assoc]
    exact ⟨by rintro _ ⟨⟩; rfl, isChain_cons rfl (isChain_cons rfl (isChain_cons rfl
      (isChain_tokens _ hmembers hhead value)))⟩

end

/-! ### Layouts of a value -/

/-- The literals of all numbers, strings and keys are well formed. -/
def Legible (value : Json) : Prop := ∀ token ∈ value.tokens, token.Legible

/-- A value is read back from each of its layouts. -/
theorem parse?_layout {value : Json} (hlegible : value.Legible) {text : List Char}
    (hlayout : Token.IsLayout value.tokens text) : parse? (String.ofList text) = some value := by
  have hapart := isChain_tokens [] List.IsChain.nil (fun _ h => by cases h) value
  rw [List.append_nil] at hapart
  rw [parse?, String.toList_ofList, hlayout.scan?_eq hlegible hapart]
  exact ofTokens?_tokens value

theorem isLayout_compact (tokens : List Token) :
    Token.IsLayout tokens (tokens.flatMap Token.text) := by
  induction tokens with
  | nil => exact .nil (List.forall_mem_nil _)
  | cons token tokens ih => exact @Token.IsLayout.cons [] token _ _ (List.forall_mem_nil _) ih

/-! ### Layouts over several lines -/

/-- The text of tokens with what stands before each. -/
def laidOut (parts : List (List Char × Token)) : List Char :=
  parts.flatMap fun (before, token) => before ++ token.text

theorem laidOut_append (parts more : List (List Char × Token)) :
    laidOut (parts ++ more) = laidOut parts ++ laidOut more :=
  List.flatMap_append

theorem isLayout_cons {before : List Char} {token : Token} {parts : List (List Char × Token)}
    {tokens : List Token} {text : List Char} (hbefore : ∀ c ∈ before, Token.isSpace c)
    (h : Token.IsLayout tokens (laidOut parts ++ text)) :
    Token.IsLayout (token :: tokens) (laidOut ((before, token) :: parts) ++ text) := by
  have hcons : laidOut ((before, token) :: parts) = before ++ token.text ++ laidOut parts :=
    List.flatMap_cons
  rw [hcons, List.append_assoc]
  exact .cons hbefore h

/-- A token may follow without a blank. -/
theorem isLayout_cons_nil {token : Token} {parts : List (List Char × Token)}
    {tokens : List Token} {text : List Char} (h : Token.IsLayout tokens (laidOut parts ++ text)) :
    Token.IsLayout (token :: tokens) (laidOut (([], token) :: parts) ++ text) :=
  isLayout_cons (List.forall_mem_nil _) h

theorem isSpace_of_mem_newLine {depth : Nat} : ∀ c ∈ newLine depth, Token.isSpace c := by
  intro c hc
  rcases List.mem_cons.1 hc with rfl | hc
  · decide
  · rw [List.eq_of_mem_replicate hc]
    decide

theorem isSpace_of_mem_singleton : ∀ c ∈ [' '], Token.isSpace c := by
  intro c hc
  rw [List.mem_singleton.1 hc]
  decide

mutual

/-- The layout over several lines goes on with what follows the value. -/
theorem isLayout_spaced {rest : List Token} {text : List Char} (h : Token.IsLayout rest text)
    (depth : Nat) {before : List Char} (hbefore : ∀ c ∈ before, Token.isSpace c) :
    (value : Json) →
      Token.IsLayout (value.tokens ++ rest) (laidOut (value.spaced depth before) ++ text)
  | null => isLayout_cons hbefore h
  | bool _ => isLayout_cons hbefore h
  | number _ => isLayout_cons hbefore h
  | string _ => isLayout_cons hbefore h
  | array [] => isLayout_cons hbefore (isLayout_cons_nil h)
  | array (item :: items) => by
    simp only [tokens, spaced, List.cons_append, List.append_assoc]
    refine isLayout_cons hbefore ?_
    rw [laidOut_append, List.append_assoc]
    exact isLayout_spaced (isLayout_spacedItems h depth items) _ isSpace_of_mem_newLine item
  | object [] => isLayout_cons hbefore (isLayout_cons_nil h)
  | object ((key, value) :: members) => by
    simp only [tokens, spaced, List.cons_append, List.append_assoc]
    refine isLayout_cons hbefore (isLayout_cons isSpace_of_mem_newLine (isLayout_cons_nil ?_))
    rw [laidOut_append, List.append_assoc]
    exact isLayout_spaced (isLayout_spacedMembers h depth members) _ isSpace_of_mem_singleton value

theorem isLayout_spacedItems {rest : List Token} {text : List Char}
    (h : Token.IsLayout rest text) (depth : Nat) : (items : List Json) →
      Token.IsLayout (itemTokens items ++ rest) (laidOut (spacedItems depth items) ++ text)
  | [] => isLayout_cons isSpace_of_mem_newLine h
  | item :: items => by
    simp only [itemTokens, spacedItems, List.cons_append, List.append_assoc]
    refine isLayout_cons_nil ?_
    rw [laidOut_append, List.append_assoc]
    exact isLayout_spaced (isLayout_spacedItems h depth items) _ isSpace_of_mem_newLine item

theorem isLayout_spacedMembers {rest : List Token} {text : List Char}
    (h : Token.IsLayout rest text) (depth : Nat) : (members : List (List Char × Json)) →
      Token.IsLayout (memberTokens members ++ rest) (laidOut (spacedMembers depth members) ++ text)
  | [] => isLayout_cons isSpace_of_mem_newLine h
  | (key, value) :: members => by
    simp only [memberTokens, spacedMembers, List.cons_append, List.append_assoc]
    refine isLayout_cons_nil (isLayout_cons isSpace_of_mem_newLine (isLayout_cons_nil ?_))
    rw [laidOut_append, List.append_assoc]
    exact isLayout_spaced (isLayout_spacedMembers h depth members) _ isSpace_of_mem_singleton value

end

/-- Blanks may stand at the end. -/
theorem isLayout_pretty_append (value : Json) {blanks : List Char}
    (hblanks : ∀ c ∈ blanks, Token.isSpace c) :
    Token.IsLayout value.tokens (laidOut (value.spaced 0 []) ++ blanks) := by
  have hlayout := isLayout_spaced (.nil hblanks) 0 (List.forall_mem_nil _) value
  rwa [List.append_nil] at hlayout

theorem isLayout_pretty (value : Json) :
    Token.IsLayout value.tokens (laidOut (value.spaced 0 [])) := by
  have hlayout := isLayout_pretty_append value (List.forall_mem_nil fun c => Token.isSpace c)
  rwa [List.append_nil] at hlayout

theorem parse?_pretty {value : Json} (h : value.Legible) : parse? value.pretty = some value :=
  parse?_layout h (isLayout_pretty value)

/-- The line over which a value is written last may be ended. -/
theorem parse?_pretty_line {value : Json} (h : value.Legible) :
    parse? (value.pretty ++ "\n") = some value := by
  have hblank : ∀ c ∈ ['\n'], Token.isSpace c := by
    intro c hc
    rw [List.mem_singleton.1 hc]
    decide
  have hline : value.pretty ++ "\n" = String.ofList (laidOut (value.spaced 0 []) ++ ['\n']) := by
    rw [String.ofList_append]
    rfl
  rw [hline]
  exact parse?_layout h (isLayout_pretty_append value hblank)

/-! ### Legible values -/

theorem legible_ofText (text : String) : (ofText text).Legible := by
  intro token htoken
  rw [List.mem_singleton.1 htoken]
  exact Token.stringLiteral?_escape text.toList []

theorem legible_ofNat (n : Nat) : (ofNat n).Legible := by
  intro token htoken
  rw [List.mem_singleton.1 htoken, toList_toString]
  exact Token.numberLiteral?_toDigits n

theorem legible_ofInt (n : Int) : (ofInt n).Legible := by
  cases n with
  | ofNat n => exact legible_ofNat n
  | negSucc n =>
    rw [ofInt_negSucc]
    intro token htoken
    rw [List.mem_singleton.1 htoken]
    exact Token.numberLiteral?_neg_toDigits (n + 1)

theorem legible_memberTokens {members : List (List Char × Json)}
    (h : ∀ member ∈ members, (string member.1).Legible ∧ member.2.Legible) :
    ∀ token ∈ memberTokens members, token.Legible := by
  induction members with
  | nil =>
    intro token htoken
    rw [List.mem_singleton.1 htoken]
    exact trivial
  | cons member members ih =>
    obtain ⟨⟨hkey, hvalue⟩, hmembers⟩ := List.forall_mem_cons.1 h
    simp only [memberTokens, List.cons_append, List.forall_mem_cons, List.forall_mem_append]
    exact ⟨trivial, hkey _ List.mem_cons_self, trivial, hvalue, ih hmembers⟩

/-- An object is legible if its keys and values are. -/
theorem legible_object {members : List (List Char × Json)}
    (h : ∀ member ∈ members, (string member.1).Legible ∧ member.2.Legible) :
    (object members).Legible := by
  cases members with
  | nil => simp [Legible, tokens, Token.Legible]
  | cons member members =>
    -- a first member differs from a later one in the bracket that stands for the comma
    have hmembers := legible_memberTokens h
    simp only [memberTokens, List.cons_append, List.forall_mem_cons] at hmembers
    simp only [Legible, tokens, List.cons_append, List.forall_mem_cons]
    exact ⟨trivial, hmembers.2⟩

/-- An array is legible if its items are. -/
theorem legible_array {items : List Json} (h : ∀ item ∈ items, item.Legible) :
    (array items).Legible := by
  have hitems : ∀ token ∈ itemTokens items, token.Legible := by
    induction items with
    | nil =>
      intro token htoken
      rw [List.mem_singleton.1 htoken]
      exact trivial
    | cons item items ih =>
      obtain ⟨hitem, hrest⟩ := List.forall_mem_cons.1 h
      simp only [itemTokens, List.cons_append, List.forall_mem_cons, List.forall_mem_append]
      exact ⟨trivial, hitem, ih hrest⟩
  cases items with
  | nil => simp [Legible, tokens, Token.Legible]
  | cons item items =>
    simp only [itemTokens, List.cons_append, List.forall_mem_cons] at hitems
    simp only [Legible, tokens, List.cons_append, List.forall_mem_cons]
    exact ⟨trivial, hitems.2⟩

end Offload.Json
