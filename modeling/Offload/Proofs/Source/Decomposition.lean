import Mathlib.Data.List.Infix
import Mathlib.Data.List.TakeWhile
import Offload.Proofs.Source.Brackets

/-!
# The declarations in a program text

A program text that is accepted is cut into what stands before its first declaration and the
declarations, each from its keyword up to the next one (`Written`, `Decomposition`). The scan finds
the keywords by a search that goes on behind each name. As an occurrence of the keyword cannot
overlap another (`not_isPrefix_append_keyword`), this finds the same pieces whatever stands between
them.

* `afterKeyword?_eq_some_iff`: the search splits a text at its first keyword;
* `declaration_eq_ok_iff`: what a declaration looks like behind its keyword;
* `exists_lists`, `exists_written`: the declarations of a text that is put together from pieces are
  found, and a text whose declarations are found is put together so;
* `written_unique`: this is possible in one way only;
* `scan_decomposition`: a text with balanced brackets is accepted if and only if it can be cut into
  pieces, and these say what the scan lists.
-/

namespace Offload.Source

open Text

variable {text rest start : List Char}

/-! ### Characters -/

/-- Names contain no blanks. -/
theorem not_isBlank_of_isNameChar {c : Char} (h : isNameChar c) : ¬isBlank c := by
  have hrange : 48 ≤ c.toNat ∧ c.toNat ≤ 122 := by
    have hcases : decide ('A'.val ≤ c.val ∧ c.val ≤ 'Z'.val) ||
        'a'.val ≤ c.val && c.val ≤ 'z'.val || '0'.val ≤ c.val && c.val ≤ '9'.val || c = '_' := h
    simp only [Bool.or_eq_true, Bool.and_eq_true, decide_eq_true_eq,
      UInt32.le_iff_toNat_le] at hcases
    rcases hcases with ((h | h) | h) | rfl
    · exact ⟨le_trans (by decide) h.1, le_trans h.2 (by decide)⟩
    · exact ⟨le_trans (by decide) h.1, le_trans h.2 (by decide)⟩
    · exact ⟨le_trans (by decide) h.1, le_trans h.2 (by decide)⟩
    · decide
  simp only [isBlank, inRanges, blankRanges, List.any_cons, List.any_nil, Bool.or_false,
    Bool.or_eq_true, Bool.and_eq_true, decide_eq_true_eq]
  omega

theorem not_isNameChar_of_isBlank {c : Char} (h : isBlank c) : ¬isNameChar c :=
  fun hname => not_isBlank_of_isNameChar hname h

/-- A run of characters of one class ends where a character of another follows. -/
theorem span_append {p : Char → Bool} {u v : List Char} (hu : ∀ c ∈ u, p c)
    (hv : ∀ c ∈ v.head?, ¬p c) : (u ++ v).takeWhile p = u ∧ (u ++ v).dropWhile p = v := by
  rw [List.takeWhile_append_of_pos hu, List.dropWhile_append_of_pos hu]
  cases v with
  | nil => simp
  | cons c v => simp [hv c rfl]

/-- So there is one way only to cut a text behind such a run. -/
theorem span_unique {p : Char → Bool} {u v u' v' : List Char} (h : u ++ v = u' ++ v')
    (hu : ∀ c ∈ u, p c) (hv : ∀ c ∈ v.head?, ¬p c) (hu' : ∀ c ∈ u', p c)
    (hv' : ∀ c ∈ v'.head?, ¬p c) : u = u' ∧ v = v' := by
  obtain ⟨htake, hdrop⟩ := span_append hu hv
  obtain ⟨htake', hdrop'⟩ := span_append hu' hv'
  exact ⟨by rw [← htake, h, htake'], by rw [← hdrop, h, hdrop']⟩

theorem takeWhile_append_trimStart : text.takeWhile isBlank ++ trimStart text = text :=
  List.takeWhile_append_dropWhile

/-- The word `void` starts with no blank. -/
theorem not_isBlank_voidWord : ∀ c ∈ (voidWord ++ rest).head?, ¬isBlank c := by
  rintro c ⟨⟩
  decide

/-- A name starts with no blank. -/
theorem not_isBlank_name {name : List Char} (hne : name ≠ []) (hname : ∀ c ∈ name, isNameChar c) :
    ∀ c ∈ (name ++ rest).head?, ¬isBlank c := by
  cases name with
  | nil => exact absurd rfl hne
  | cons c name => simpa using not_isBlank_of_isNameChar (hname c List.mem_cons_self)

theorem not_isBlank_parenthesis : ∀ c ∈ ('(' :: rest).head?, ¬isBlank c := by
  rintro c ⟨⟩
  decide

/-- A parenthesis behind blanks extends no name. -/
theorem not_isNameChar_of_opens {blanks behind : List Char} (hblank : ∀ c ∈ blanks, isBlank c) :
    ∀ c ∈ (blanks ++ '(' :: behind).head?, ¬isNameChar c := by
  cases blanks with
  | nil =>
    rintro c ⟨⟩
    decide
  | cons c blanks => simpa using not_isNameChar_of_isBlank (hblank c List.mem_cons_self)

/-! ### The search for the keyword -/

theorem after?_eq_some_iff {word : List Char} :
    after? word text = some rest ↔ text = word ++ rest := by
  refine ⟨eq_append_of_after?, ?_⟩
  rintro rfl
  induction word with
  | nil => rfl
  | cons c word ih => simpa [after?] using ih

/-- An occurrence of the keyword cannot begin inside another one. -/
theorem eq_keyword_of_border {u : List Char} (hsuffix : u <:+ keyword) (hbegins : u <+: keyword) :
    u = keyword ∨ u = [] := by
  have hborder : ∀ u ∈ keyword.tails, u <+: keyword → u = keyword ∨ u = [] := by decide
  exact hborder u ((List.mem_tails u keyword).2 hsuffix) hbegins

theorem not_isPrefix_append_keyword (hstart : start ≠ []) (hfree : ¬keyword <+: start) :
    ¬keyword <+: start ++ (keyword ++ rest) := by
  rintro ⟨behind, h⟩
  rcases List.append_eq_append_iff.1 h with ⟨u, rfl, -⟩ | ⟨u, hkeyword, hu⟩
  · exact hfree ⟨u, rfl⟩
  · -- the keyword ends in a part of the next one
    have hsuffix : u <:+ keyword := ⟨start, hkeyword.symm⟩
    have hbegins : u <+: keyword :=
      List.prefix_of_prefix_length_le ⟨behind, hu.symm⟩ ⟨rest, rfl⟩ hsuffix.length_le
    rcases eq_keyword_of_border hsuffix hbegins with rfl | rfl
    · exact hstart (List.self_eq_append_left.1 hkeyword)
    · exact hfree ⟨[], by simpa using hkeyword⟩

theorem afterKeyword?_append (hfree : ¬keyword <:+: start) :
    afterKeyword? (start ++ (keyword ++ rest)) = some rest := by
  induction start with
  | nil =>
    have hfound : after? keyword ('_' :: (keyword.tail ++ rest)) = some rest :=
      after?_eq_some_iff.2 rfl
    rw [List.nil_append, show keyword ++ rest = '_' :: (keyword.tail ++ rest) from rfl,
      afterKeyword?, hfound, Option.some_or]
  | cons c start ih =>
    rw [List.infix_cons_iff, not_or] at hfree
    have hnone : after? keyword (c :: (start ++ (keyword ++ rest))) = none := by
      rw [Option.eq_none_iff_forall_ne_some]
      intro behind hbehind
      exact not_isPrefix_append_keyword (List.cons_ne_nil c start) hfree.1
        ⟨behind, (after?_eq_some_iff.1 hbehind).symm⟩
    rw [List.cons_append, afterKeyword?, hnone, Option.none_or, ih hfree.2]

/-- The search splits a text at its first keyword. -/
theorem afterKeyword?_eq_some_iff :
    afterKeyword? text = some rest ↔
      ∃ start, text = start ++ (keyword ++ rest) ∧ ¬keyword <:+: start := by
  constructor
  · intro h
    induction text with
    | nil => cases h
    | cons c text ih =>
      rw [afterKeyword?, Option.or_eq_some_iff] at h
      rcases h with h | ⟨hnone, h⟩
      · have hbegins : c :: text = keyword ++ rest := after?_eq_some_iff.1 h
        exact ⟨[], hbegins, by decide⟩
      · obtain ⟨start, rfl, hfree⟩ := ih h
        refine ⟨c :: start, rfl, ?_⟩
        rw [List.infix_cons_iff, not_or]
        refine ⟨?_, hfree⟩
        rintro ⟨behind, hbehind⟩
        have hsome : after? keyword (c :: (start ++ (keyword ++ rest))) =
            some (behind ++ (keyword ++ rest)) := by
          rw [after?_eq_some_iff, ← List.cons_append, ← hbehind, List.append_assoc]
        cases hnone.symm.trans hsome
  · rintro ⟨start, rfl, hfree⟩
    exact afterKeyword?_append hfree

theorem afterKeyword?_eq_none_iff : afterKeyword? text = none ↔ ¬keyword <:+: text := by
  constructor
  · rintro h ⟨start, rest, rfl⟩
    -- the keyword found here may not be the first one, but there is one
    induction start with
    | nil =>
      have hfound : afterKeyword? ([] ++ (keyword ++ rest)) = some rest :=
        afterKeyword?_append (by decide)
      exact nomatch h.symm.trans hfound
    | cons c start ih =>
      rw [List.cons_append, List.cons_append, afterKeyword?, Option.or_eq_none_iff] at h
      exact ih h.2
  · intro hfree
    rw [Option.eq_none_iff_forall_ne_some]
    intro rest hsome
    obtain ⟨start, rfl, -⟩ := afterKeyword?_eq_some_iff.1 hsome
    exact hfree ⟨start, rest, by rw [List.append_assoc]⟩

/-! ### One declaration -/

/-- What a declaration looks like behind its keyword. -/
theorem declaration_eq_ok_iff {decl : Declaration} :
    declaration text = .ok (decl, rest) ↔
      ∃ gap space name blanks behind, text = gap ++ (voidWord ++ (space ++ (name ++ rest))) ∧
        (∀ c ∈ gap, isBlank c) ∧ (∀ c ∈ space, isBlank c) ∧ name ≠ [] ∧
        (∀ c ∈ name, isNameChar c) ∧ rest = blanks ++ '(' :: behind ∧ (∀ c ∈ blanks, isBlank c) ∧
        decl = ⟨String.ofList name, paramCount behind⟩ := by
  constructor
  · intro h
    rw [declaration] at h
    split at h
    · exact nomatch h
    · rename_i behind hvoid
      have hvoid := after?_eq_some_iff.1 hvoid
      dsimp only at h
      split_ifs at h with hname
      split at h
      · rename_i params hparams
        obtain ⟨rfl, rfl⟩ := Prod.mk.inj (Except.ok.inj h)
        refine ⟨text.takeWhile isBlank, behind.takeWhile isBlank, _,
          ((trimStart behind).dropWhile isNameChar).takeWhile isBlank, params, ?_,
          fun _ => List.mem_takeWhile_imp, fun _ => List.mem_takeWhile_imp, hname,
          fun _ => List.mem_takeWhile_imp, ?_, fun _ => List.mem_takeWhile_imp, rfl⟩
        · rw [List.takeWhile_append_dropWhile, takeWhile_append_trimStart, ← hvoid,
            takeWhile_append_trimStart]
        · rw [← hparams, takeWhile_append_trimStart]
      · exact nomatch h
  · rintro ⟨gap, space, name, blanks, behind, rfl, hgap, hspace, hne, hname, rfl, hblanks, rfl⟩
    -- each run ends where the next one begins, as their classes have no character in common
    have hopens : trimStart (blanks ++ '(' :: behind) = '(' :: behind :=
      (span_append hblanks not_isBlank_parenthesis).2
    have hrest : ∀ c ∈ (blanks ++ '(' :: behind).head?, ¬isNameChar c :=
      not_isNameChar_of_opens hblanks
    obtain ⟨hnamed, hbehind⟩ := span_append hname hrest
    have hspaced : trimStart (space ++ (name ++ (blanks ++ '(' :: behind))) =
        name ++ (blanks ++ '(' :: behind) := (span_append hspace (not_isBlank_name hne hname)).2
    have hvoid : trimStart (gap ++ (voidWord ++ (space ++ (name ++ (blanks ++ '(' :: behind))))) =
        voidWord ++ (space ++ (name ++ (blanks ++ '(' :: behind))) :=
      (span_append hgap not_isBlank_voidWord).2
    rw [declaration, hvoid, after?_eq_some_iff.2 rfl]
    simp only [hspaced, hnamed, hbehind, if_neg hne, hopens]

/-! ### Decompositions -/

/-- A declaration as it is written, with the text up to the next one. -/
@[ext]
structure Written where
  /-- What stands between the keyword and `void`. -/
  gap : List Char
  /-- What stands between `void` and the name. -/
  space : List Char
  /-- The name. -/
  name : List Char
  /-- The text behind the name, up to the next keyword. -/
  tail : List Char
  gap_blank : ∀ c ∈ gap, isBlank c
  space_blank : ∀ c ∈ space, isBlank c
  name_ne : name ≠ []
  name_chars : ∀ c ∈ name, isNameChar c
  /-- The text behind the name does not extend it. -/
  name_whole : ∀ c ∈ tail.head?, ¬isNameChar c
  /-- A parenthesis opens behind the name. -/
  tail_opens : ∃ blanks behind, tail = blanks ++ '(' :: behind ∧ ∀ c ∈ blanks, isBlank c
  tail_free : ¬keyword <:+: tail

/-- The whole text of a declaration. -/
def Written.spelling (w : Written) : List Char :=
  keyword ++ (w.gap ++ (voidWord ++ (w.space ++ (w.name ++ w.tail))))

/-- A text, cut at its declarations. -/
@[ext]
structure Decomposition (text : List Char) where
  /-- What stands before the first declaration. -/
  start : List Char
  /-- The declarations, from front to back. -/
  written : List Written
  start_free : ¬keyword <:+: start
  written_ne : written ≠ []
  text_eq : text = start ++ written.flatMap Written.spelling

/-- What pieces of a text declare, if the parameters of each declaration are counted in this way,
    given the text behind its parenthesis. -/
inductive Lists (Counted : List Char → Nat → Prop) : List Written → List Declaration → Prop where
  | nil : Lists Counted [] []
  | cons {w : Written} {ws : List Written} {decls : List Declaration} {blanks behind : List Char}
      {n : Nat} (tail_eq : w.tail = blanks ++ '(' :: behind) (blank : ∀ c ∈ blanks, isBlank c)
      (counted : Counted (behind ++ ws.flatMap Written.spelling) n)
      (others : Lists Counted ws decls) :
      Lists Counted (w :: ws) (⟨String.ofList w.name, n⟩ :: decls)

/-- The number of parameters, if their list ends at the first closing parenthesis, of which there is
    one. -/
def CountedToFirst (text : List Char) (n : Nat) : Prop :=
  ∃ list behind, text = list ++ ')' :: behind ∧ ')' ∉ list ∧
    n = if trim list = [] ∨ trim list = voidWord then 0 else (trim list).count ',' + 1

variable {w : Written} {ws : List Written} {decls : List Declaration}
  {Counted Counted' : List Char → Nat → Prop}

theorem Lists.imp (h : ∀ text n, Counted text n → Counted' text n)
    (hlists : Lists Counted ws decls) : Lists Counted' ws decls := by
  induction hlists with
  | nil => exact .nil
  | cons htail hblank hcounted _ ih => exact .cons htail hblank (h _ _ hcounted) ih

/-! ### The scan of the declarations -/

theorem declarations_of_none (h : afterKeyword? text = none) : declarations text = .ok [] := by
  rw [declarations]
  split
  · rfl
  · simp_all

theorem declarations_of_some {behind : List Char} {decl : Declaration}
    (hfound : afterKeyword? text = some behind) (hdecl : declaration behind = .ok (decl, rest)) :
    declarations text = (declarations rest).map (decl :: ·) := by
  rw [declarations]
  split
  · simp_all
  · obtain rfl := Option.some.inj (hfound.symm.trans ‹_›)
    split
    · simp_all
    · obtain ⟨rfl, rfl⟩ := Prod.mk.inj (Except.ok.inj (hdecl.symm.trans ‹_›))
      cases declarations rest <;> rfl

/-- Pieces that are put together are found again. -/
theorem exists_lists (ws : List Written) (hfree : ¬keyword <:+: start) :
    ∃ decls, declarations (start ++ ws.flatMap Written.spelling) = .ok decls ∧
      Lists (fun text n => n = paramCount text) ws decls := by
  induction ws generalizing start with
  | nil =>
    refine ⟨[], ?_, .nil⟩
    rw [List.flatMap_nil, List.append_nil]
    exact declarations_of_none (afterKeyword?_eq_none_iff.2 hfree)
  | cons w ws ih =>
    obtain ⟨decls, hdecls, hlists⟩ := ih w.tail_free
    obtain ⟨blanks, behind, htail, hblank⟩ := w.tail_opens
    refine ⟨_, ?_, .cons htail hblank rfl hlists⟩
    have hdecl : declaration (w.gap ++ (voidWord ++ (w.space ++ (w.name ++
        (w.tail ++ ws.flatMap Written.spelling))))) =
        .ok (⟨String.ofList w.name, paramCount (behind ++ ws.flatMap Written.spelling)⟩,
          w.tail ++ ws.flatMap Written.spelling) :=
      declaration_eq_ok_iff.2 ⟨w.gap, w.space, w.name, blanks, _, rfl, w.gap_blank, w.space_blank,
        w.name_ne, w.name_chars, by rw [htail]; simp, hblank, rfl⟩
    rw [List.flatMap_cons, Written.spelling]
    simp only [List.append_assoc]
    rw [declarations_of_some (afterKeyword?_append hfree) hdecl, hdecls]
    rfl

theorem head?_flatMap_spelling (ws : List Written) :
    ∀ c ∈ (ws.flatMap Written.spelling).head?, c = '_' := by
  cases ws with
  | nil => simp
  | cons w ws => simp [Written.spelling, keyword]

/-- The parenthesis behind a name stands in front of the next keyword. -/
theorem exists_tail_eq {tail blanks behind : List Char}
    (h : tail ++ ws.flatMap Written.spelling = blanks ++ '(' :: behind)
    (hblank : ∀ c ∈ blanks, isBlank c) : ∃ inside, tail = blanks ++ '(' :: inside := by
  have hhead := head?_flatMap_spelling ws
  rcases List.append_eq_append_iff.1 h with ⟨between, rfl, hbetween⟩ | ⟨inside, rfl, hinside⟩
  · rw [hbetween] at hhead
    cases between with
    | nil => exact absurd (hhead '(' rfl) (by decide)
    | cons c between =>
      obtain rfl := hhead c rfl
      exact absurd (hblank '_' (by simp)) (by decide)
  · cases inside with
    | nil =>
      have hmore : ws.flatMap Written.spelling = '(' :: behind := hinside.symm
      exact absurd (hhead '(' (by rw [hmore]; rfl)) (by decide)
    | cons c inside => exact ⟨inside, by rw [(List.cons.inj hinside).1]⟩

/-- A text that is accepted can be cut into pieces. -/
theorem exists_written (h : declarations text = .ok decls) :
    ∃ (start : List Char) (ws : List Written),
      text = start ++ ws.flatMap Written.spelling ∧ ¬keyword <:+: start := by
  fun_induction declarations text generalizing decls with
  | case1 text hnone => exact ⟨text, [], by simp, afterKeyword?_eq_none_iff.1 hnone⟩
  | case2 | case3 => cases h
  | case4 text behind hfound decl rest hdecl decls' hrest ih =>
    obtain ⟨start, rfl, hfree⟩ := afterKeyword?_eq_some_iff.1 hfound
    obtain ⟨gap, space, name, blanks, params, rfl, hgap, hspace, hne, hname, hopens, hblank, -⟩ :=
      declaration_eq_ok_iff.1 hdecl
    obtain ⟨tail, ws, rfl, htail⟩ := ih hrest
    obtain ⟨inside, rfl⟩ := exists_tail_eq hopens hblank
    let w : Written := ⟨gap, space, name, _, hgap, hspace, hne, hname,
      not_isNameChar_of_opens hblank, ⟨blanks, inside, rfl, hblank⟩, htail⟩
    refine ⟨start, w :: ws, ?_, hfree⟩
    simp [w, Written.spelling]

/-- What stands behind a keyword is read in one way only. -/
theorem heading_unique {gap gap' space space' name name' rest' : List Char}
    (h : gap ++ (voidWord ++ (space ++ (name ++ rest))) =
      gap' ++ (voidWord ++ (space' ++ (name' ++ rest'))))
    (hgap : ∀ c ∈ gap, isBlank c) (hspace : ∀ c ∈ space, isBlank c) (hne : name ≠ [])
    (hname : ∀ c ∈ name, isNameChar c) (hrest : ∀ c ∈ rest.head?, ¬isNameChar c)
    (hgap' : ∀ c ∈ gap', isBlank c) (hspace' : ∀ c ∈ space', isBlank c) (hne' : name' ≠ [])
    (hname' : ∀ c ∈ name', isNameChar c) (hrest' : ∀ c ∈ rest'.head?, ¬isNameChar c) :
    gap = gap' ∧ space = space' ∧ name = name' ∧ rest = rest' := by
  obtain ⟨rfl, h⟩ := span_unique h hgap not_isBlank_voidWord hgap' not_isBlank_voidWord
  have hspaced : space ++ (name ++ rest) = space' ++ (name' ++ rest') :=
    List.append_cancel_left (List.append_cancel_left h)
  obtain ⟨rfl, hnamed⟩ := span_unique hspaced hspace (not_isBlank_name hne hname) hspace'
    (not_isBlank_name hne' hname')
  obtain ⟨rfl, rfl⟩ := span_unique hnamed hname hrest hname' hrest'
  exact ⟨rfl, rfl, rfl, rfl⟩

theorem Written.whole_append (w : Written) (more : List Char) :
    ∀ c ∈ (w.tail ++ more).head?, ¬isNameChar c := by
  obtain ⟨blanks, behind, htail, hblank⟩ := w.tail_opens
  rw [htail, List.append_assoc, List.cons_append]
  exact not_isNameChar_of_opens hblank

/-- A text is put together from pieces in one way only. -/
theorem written_unique {start' : List Char} {ws' : List Written} (hfree : ¬keyword <:+: start)
    (hfree' : ¬keyword <:+: start')
    (h : start ++ ws.flatMap Written.spelling = start' ++ ws'.flatMap Written.spelling) :
    start = start' ∧ ws = ws' := by
  -- a list of pieces without the keyword is empty
  have hempty {start : List Char} (ws : List Written) (hstart : ¬keyword <:+: start)
      (hnone : afterKeyword? (start ++ ws.flatMap Written.spelling) = none) : ws = [] := by
    cases ws with
    | nil => rfl
    | cons w ws =>
      rw [List.flatMap_cons, Written.spelling, List.append_assoc,
        afterKeyword?_append hstart] at hnone
      exact nomatch hnone
  induction ws generalizing start start' ws' with
  | nil =>
    rw [List.flatMap_nil, List.append_nil] at h
    obtain rfl := hempty ws' hfree' (h ▸ afterKeyword?_eq_none_iff.2 hfree)
    exact ⟨by simpa using h, rfl⟩
  | cons w ws ih =>
    cases ws' with
    | nil =>
      rw [List.flatMap_nil, List.append_nil] at h
      exact absurd (hempty (w :: ws) hfree (h ▸ afterKeyword?_eq_none_iff.2 hfree'))
        (List.cons_ne_nil w ws)
    | cons w' ws' =>
      simp only [List.flatMap_cons, Written.spelling, List.append_assoc] at h
      have hbehind := (afterKeyword?_append hfree).symm.trans (h ▸ afterKeyword?_append hfree')
      have hsame := Option.some.inj hbehind
      obtain ⟨hgap, hspace, hname, hrest⟩ := heading_unique hsame w.gap_blank w.space_blank
        w.name_ne w.name_chars (w.whole_append _) w'.gap_blank w'.space_blank w'.name_ne
        w'.name_chars (w'.whole_append _)
      obtain ⟨htail, rfl⟩ := ih w.tail_free w'.tail_free hrest
      rw [hsame] at h
      exact ⟨List.append_cancel_right h, by rw [Written.ext hgap hspace hname htail]⟩

/-! ### Parameters up to the first closing parenthesis -/

/-- A text with a closing parenthesis is cut at the first one. -/
theorem takeWhile_append_closing (h : ')' ∈ text) :
    ∃ behind, text = text.takeWhile (· != ')') ++ ')' :: behind ∧
      ')' ∉ text.takeWhile (· != ')') := by
  have hcut : text.takeWhile (· != ')') ++ text.dropWhile (· != ')') = text :=
    List.takeWhile_append_dropWhile
  have hfirst : ')' ∉ text.takeWhile (· != ')') := fun hmem => by
    simpa using List.mem_takeWhile_imp hmem
  cases hdrop : text.dropWhile (· != ')') with
  | nil =>
    rw [hdrop, List.append_nil] at hcut
    exact absurd (hcut.symm ▸ h) hfirst
  | cons c behind =>
    obtain rfl : c = ')' := by
      have hc := List.head?_dropWhile_not (· != ')') text
      simpa [hdrop] using hc
    exact ⟨behind, by rw [← hdrop, hcut], hfirst⟩

theorem paramCount_counted (h : ')' ∈ text) : CountedToFirst text (paramCount text) := by
  obtain ⟨behind, htext, hfirst⟩ := takeWhile_append_closing h
  exact ⟨text.takeWhile (· != ')'), behind, htext, hfirst, by simp [paramCount, h]⟩

/-- In a text with balanced brackets, the list of parameters of each declaration is closed. -/
theorem Lists.closed {before : List Char} (hlists : Lists Counted ws decls)
    (hbalanced : Balanced (brackets (before ++ ws.flatMap Written.spelling))) :
    Lists (fun text n => IsClosedIn '(' text ∧ Counted text n) ws decls := by
  induction hlists generalizing before with
  | nil => exact .nil
  | @cons w ws decls blanks behind n htail hblank hcounted _ ih =>
    rw [List.flatMap_cons, ← List.append_assoc] at hbalanced
    refine .cons htail hblank ⟨?_, hcounted⟩ (ih hbalanced)
    obtain ⟨heading, hheading⟩ : ∃ heading, w.spelling = heading ++ '(' :: behind :=
      ⟨keyword ++ (w.gap ++ (voidWord ++ (w.space ++ (w.name ++ blanks)))), by
        simp [Written.spelling, htail]⟩
    rw [hheading, ← List.append_assoc before, List.append_assoc _ ('(' :: behind)] at hbalanced
    exact isClosedIn_of_balanced hbalanced rfl

theorem mem_of_isClosedIn (h : IsClosedIn '(' text) : ')' ∈ text := by
  obtain ⟨inner, rest, rfl, -⟩ := isClosedIn_parenthesis.1 h
  exact List.mem_append_right inner List.mem_cons_self

/-! ### Program texts -/

theorem scan_eq_ok_iff {source : String} :
    scan source = .ok decls ↔ Balanced (brackets source.toList) ∧
      declarations source.toList = .ok decls ∧ decls ≠ [] := by
  have hnone : bracketFault? [] 1 source.toList = none ↔ Balanced (brackets source.toList) :=
    bracketFault?_eq_none_iff
  rw [scan, ← hnone]
  cases bracketFault? [] 1 source.toList with
  | some fault => simp
  | none =>
    cases declarations source.toList with
    | error fault => simp
    | ok found =>
      cases found with
      | nil => simp
      | cons decl found => cases decls <;> simp

/-- What an accepted text declares, with each list of parameters closed in the text behind. -/
theorem Decomposition.exists_scan {source : String} (d : Decomposition source.toList)
    (h : Balanced (brackets source.toList)) :
    ∃ decls, scan source = .ok decls ∧
      Lists (fun text n => IsClosedIn '(' text ∧ n = paramCount text) d.written decls := by
  obtain ⟨decls, hdecls, hlists⟩ := exists_lists d.written d.start_free
  rw [← d.text_eq] at hdecls
  refine ⟨decls, scan_eq_ok_iff.2 ⟨h, hdecls, ?_⟩, hlists.closed (d.text_eq ▸ h)⟩
  rintro rfl
  cases hw : d.written with
  | nil => exact d.written_ne hw
  | cons w ws =>
    rw [hw] at hlists
    exact nomatch hlists

theorem exists_decomposition {source : String} (h : scan source = .ok decls) :
    Nonempty (Decomposition source.toList) := by
  obtain ⟨-, hdecls, hne⟩ := scan_eq_ok_iff.1 h
  obtain ⟨start, ws, htext, hfree⟩ := exists_written hdecls
  refine ⟨⟨start, ws, hfree, ?_, htext⟩⟩
  rintro rfl
  obtain ⟨decls', hdecls', hlists⟩ := exists_lists [] hfree
  rw [htext, hdecls'] at hdecls
  obtain rfl := Except.ok.inj hdecls
  cases hlists
  exact hne rfl

theorem decomposition_unique (d d' : Decomposition text) : d = d' := by
  obtain ⟨hstart, hwritten⟩ :=
    written_unique d.start_free d'.start_free (d.text_eq.symm.trans d'.text_eq)
  exact Decomposition.ext hstart hwritten

/-- A program text with balanced brackets is accepted if and only if it can be cut into the text
    before its first declaration and its declarations. There is one way only to do so, each list of
    parameters is closed, and the scan lists the names with their parameters, counted up to the
    first closing parenthesis. -/
theorem scan_decomposition (source : String) (h : Balanced (brackets source.toList)) :
    ((∃ decls, scan source = .ok decls) ↔ Nonempty (Decomposition source.toList)) ∧
      Subsingleton (Decomposition source.toList) ∧
      ∀ d : Decomposition source.toList,
        ∃ decls, scan source = .ok decls ∧ Lists CountedToFirst d.written decls := by
  refine ⟨⟨fun ⟨_, hscan⟩ => exists_decomposition hscan, fun ⟨d⟩ => ?_⟩, ⟨decomposition_unique⟩,
    fun d => ?_⟩
  · obtain ⟨decls, hscan, -⟩ := d.exists_scan h
    exact ⟨decls, hscan⟩
  · obtain ⟨decls, hscan, hlists⟩ := d.exists_scan h
    refine ⟨decls, hscan, hlists.imp ?_⟩
    rintro text n ⟨hclosed, rfl⟩
    exact paramCount_counted (mem_of_isClosedIn hclosed)

/-- Two declarations, of which the first has a blank more before its parameters. -/
theorem scan_decomposition_of_two :
    let source := "int x; __kernel void f (a, b)__kernel\nvoid_g(void)"
    Balanced (brackets source.toList) ∧
      ∃ d : Decomposition source.toList, d.written.map (String.ofList ·.name) = ["f", "_g"] ∧
        ∃ decls, scan source = .ok decls ∧ Lists CountedToFirst d.written decls := by
  intro source
  have h : Balanced (brackets source.toList) :=
    bracketFault?_eq_none_iff.1 (show bracketFault? [] 1 source.toList = none by decide +kernel)
  have hspace : ∀ c ∈ [' '], isBlank c := List.all_eq_true.1 rfl
  have hnone : ∀ c ∈ [], isBlank c := List.all_eq_true.1 rfl
  let f : Written :=
    ⟨[' '], [' '], ['f'], [' '] ++ '(' :: "a, b)".toList, hspace, hspace, List.cons_ne_nil _ _,
      List.all_eq_true.1 rfl, not_isNameChar_of_opens hspace, ⟨_, _, rfl, hspace⟩, by decide⟩
  let g : Written :=
    ⟨['\n'], [], ['_', 'g'], [] ++ '(' :: "void)".toList, List.all_eq_true.1 rfl, hnone,
      List.cons_ne_nil _ _, List.all_eq_true.1 rfl, not_isNameChar_of_opens hnone,
      ⟨_, _, rfl, hnone⟩, by decide⟩
  let d : Decomposition source.toList :=
    ⟨"int x; ".toList, [f, g], by decide, List.cons_ne_nil _ _,
      by simp [source, f, g, Written.spelling, keyword, voidWord]⟩
  exact ⟨h, d, rfl, (scan_decomposition source h).2.2 d⟩

example : scan "int x; __kernel void f (a, b)__kernel\nvoid_g(void)" =
    .ok [⟨"f", 2⟩, ⟨"_g", 0⟩] := by decide +kernel

end Offload.Source
