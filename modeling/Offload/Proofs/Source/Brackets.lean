import Mathlib.Data.List.Basic
import Offload.Source.Declarations

/-!
# Balanced brackets

The brackets of a text are balanced if they form a word of the grammar in which a pair of brackets
stands around one balanced word and in front of another (`Balanced`). The scan knows nothing of
this grammar: it walks over the text with a list of open brackets. What the two have in common is
`Closes`, which says that a word closes some open brackets one after the other and is balanced in
between. A character read changes the open brackets (`Reads`) and nothing else about what is to be
closed (`Reads.closes_iff`).

* `bracketFault?_eq_none_iff`: the scan finds no fault if and only if the text closes what is open
  and its brackets are balanced otherwise;
* `bracketFault?_unexpected`: an unexpected bracket ends the shortest beginning of the text that
  cannot be completed;
* `bracketFault?_unterminated`: behind an unterminated bracket of the text all brackets are
  balanced, and the text can be completed;
* `scan_brackets`: what this means for whole program texts, with the line of the bracket.
-/

namespace Offload.Source

/-! ### Balanced words -/

/-- The opening brackets, each with the one that closes it. -/
def bracketPairs : List (Char × Char) := [('(', ')'), ('[', ']'), ('\x7b', '\x7d')]

/-- The character is a bracket of one of the three kinds. -/
def isBracket (c : Char) : Bool :=
  bracketPairs.any fun pair => c = pair.1 || c = pair.2

/-- The brackets of a text, in order. -/
def brackets (text : List Char) : List Char :=
  text.filter isBracket

/-- The balanced words over the three kinds of brackets. -/
inductive Balanced : List Char → Prop where
  /-- The empty word. -/
  | nil : Balanced []
  /-- A pair of brackets around a balanced word, and a balanced word behind it. -/
  | wrap {o c : Char} {inner rest : List Char} (pair : (o, c) ∈ bracketPairs)
      (inner_balanced : Balanced inner) (rest_balanced : Balanced rest) :
      Balanced (o :: inner ++ c :: rest)

/-- A word closes some open brackets, innermost first. Before, between and behind the brackets that
    do so, it is balanced. -/
def Closes : List Char → List Char → Prop
  | [], word => Balanced word
  | o :: opened, word =>
    ∃ inner c rest, word = inner ++ c :: rest ∧ (o, c) ∈ bracketPairs ∧ Balanced inner ∧
      Closes opened rest

variable {o c x : Char} {opened word u v text : List Char}

theorem isOpening_iff : isOpening o = true ↔ ∃ c, (o, c) ∈ bracketPairs := by
  simp only [isOpening, bracketPairs, Bool.or_eq_true, decide_eq_true_eq, List.mem_cons,
    Prod.mk.injEq, List.not_mem_nil, or_false, exists_or, exists_and_left, exists_eq, and_true,
    or_assoc]

theorem opening?_eq_some_iff : opening? c = some o ↔ (o, c) ∈ bracketPairs := by
  simp only [opening?, bracketPairs, List.mem_cons, Prod.mk.injEq, List.not_mem_nil, or_false]
  grind

/-- Brackets of different kinds do not belong together. -/
theorem eq_of_mem_bracketPairs {o' : Char} (h : (o, c) ∈ bracketPairs)
    (h' : (o', c) ∈ bracketPairs) : o = o' :=
  Option.some.inj ((opening?_eq_some_iff.2 h).symm.trans (opening?_eq_some_iff.2 h'))

/-- No bracket both opens and closes. -/
theorem not_closing_of_opening {o' : Char} (h : (o, c) ∈ bracketPairs) :
    (o', o) ∉ bracketPairs := by
  simp only [bracketPairs, List.mem_cons, Prod.mk.injEq, List.not_mem_nil, or_false] at *
  grind

theorem isBracket_iff :
    isBracket x = true ↔ (∃ c, (x, c) ∈ bracketPairs) ∨ ∃ o, (o, x) ∈ bracketPairs := by
  simp [isBracket, bracketPairs]
  grind

theorem balanced_cons : Balanced (x :: word) ↔ Closes [x] word := by
  constructor
  · generalize hw : x :: word = w
    rintro (_ | ⟨hpair, hinner, hrest⟩)
    · exact nomatch hw
    · obtain ⟨rfl, rfl⟩ := List.cons.inj hw
      exact ⟨_, _, _, rfl, hpair, hinner, hrest⟩
  · rintro ⟨inner, c, rest, rfl, hpair, hinner, hrest⟩
    exact .wrap hpair hinner hrest

/-- An opening bracket is one more to close. -/
theorem closes_opening (h : (o, c) ∈ bracketPairs) :
    Closes opened (o :: word) ↔ Closes (o :: opened) word := by
  cases opened with
  | nil => exact balanced_cons
  | cons b opened =>
    constructor
    · rintro ⟨inner, d, rest, hword, hd, hinner, hrest⟩
      -- the bracket is not the one that closes `b`, so it stands in the balanced word before that
      cases inner with
      | nil =>
        obtain ⟨rfl, -⟩ := List.cons.inj hword
        exact absurd hd (not_closing_of_opening h)
      | cons first inner =>
        obtain ⟨rfl, rfl⟩ := List.cons.inj hword
        obtain ⟨inner, d', rest', rfl, hd', hinner, hrest'⟩ := balanced_cons.1 hinner
        exact ⟨inner, d', rest' ++ d :: rest, by simp, hd', hinner, rest', d, rest, rfl, hd,
          hrest', hrest⟩
    · rintro ⟨inner, d, _, rfl, hd, hinner, inner', d', rest, rfl, hd', hinner', hrest⟩
      exact ⟨o :: inner ++ d :: inner', d', rest, by simp, hd', .wrap hd hinner hinner', hrest⟩

/-- A closing bracket closes the innermost open one. -/
theorem closes_closing (h : (o, c) ∈ bracketPairs) :
    Closes opened (c :: word) ↔ ∃ outer, opened = o :: outer ∧ Closes outer word := by
  have hnot {rest : List Char} : ¬Balanced (c :: rest) := fun hbalanced =>
    let ⟨_, _, _, _, hpair, _⟩ := balanced_cons.1 hbalanced
    not_closing_of_opening hpair h
  constructor
  · intro hcloses
    cases opened with
    | nil => exact absurd hcloses hnot
    | cons b opened =>
      obtain ⟨inner, d, rest, hword, hd, hinner, hrest⟩ := hcloses
      cases inner with
      | nil =>
        obtain ⟨rfl, rfl⟩ := List.cons.inj hword
        exact ⟨opened, by rw [eq_of_mem_bracketPairs h hd], hrest⟩
      | cons first inner =>
        obtain ⟨rfl, -⟩ := List.cons.inj hword
        exact absurd hinner hnot
  · rintro ⟨outer, rfl, hrest⟩
    exact ⟨[], c, word, rfl, h, .nil, hrest⟩

/-- A balanced word neither opens nor closes anything. -/
theorem Balanced.closes_append (hu : Balanced u) : Closes opened (u ++ v) ↔ Closes opened v := by
  induction hu generalizing opened v with
  | nil => exact Iff.rfl
  | wrap hpair _ _ ihinner ihrest =>
    rw [List.append_assoc, List.cons_append, List.cons_append, closes_opening hpair, ihinner,
      closes_closing hpair]
    simp [ihrest]

/-! ### Brackets in texts -/

theorem brackets_append : brackets (u ++ v) = brackets u ++ brackets v :=
  List.filter_append u v

theorem brackets_cons_opening (h : (o, c) ∈ bracketPairs) :
    brackets (o :: text) = o :: brackets text :=
  List.filter_cons_of_pos (isBracket_iff.2 (.inl ⟨c, h⟩))

theorem brackets_cons_closing (h : (o, c) ∈ bracketPairs) :
    brackets (c :: text) = c :: brackets text :=
  List.filter_cons_of_pos (isBracket_iff.2 (.inr ⟨o, h⟩))

theorem brackets_cons_other (h : ¬isBracket x) : brackets (x :: text) = brackets text :=
  List.filter_cons_of_neg h

/-- Some text has this beginning and balanced brackets. -/
def Completable (text : List Char) : Prop :=
  ∃ more, Balanced (brackets (text ++ more))

/-- Some text has this beginning, closes the brackets that are open before, and has balanced
    brackets otherwise. -/
def CompletableBehind (opened text : List Char) : Prop :=
  ∃ more, Closes opened (brackets (text ++ more))

theorem completable_iff : Completable text ↔ CompletableBehind [] text := Iff.rfl

/-- The bracket is closed in the text behind it. -/
def IsClosedIn (o : Char) (text : List Char) : Prop :=
  ∃ inner c rest, text = inner ++ c :: rest ∧ (o, c) ∈ bracketPairs ∧ Balanced (brackets inner)

theorem isClosedIn_parenthesis :
    IsClosedIn '(' text ↔
      ∃ inner rest, text = inner ++ ')' :: rest ∧ Balanced (brackets inner) := by
  constructor
  · rintro ⟨inner, c, rest, rfl, hpair, hinner⟩
    obtain rfl : c = ')' := by simpa [bracketPairs] using hpair
    exact ⟨inner, rest, rfl, hinner⟩
  · rintro ⟨inner, rest, rfl, hinner⟩
    exact ⟨inner, ')', rest, rfl, by decide, hinner⟩

/-- What a character of a text makes of the brackets that are open before it. -/
inductive Reads : List Char → Char → List Char → Prop where
  /-- It opens a bracket. -/
  | opening {opened : List Char} {o c : Char} : (o, c) ∈ bracketPairs → Reads opened o (o :: opened)
  /-- It closes the innermost one. -/
  | closing {opened : List Char} {o c : Char} : (o, c) ∈ bracketPairs → Reads (o :: opened) c opened
  /-- It is no bracket. -/
  | other {opened : List Char} {x : Char} : ¬isBracket x → Reads opened x opened

theorem Reads.closes_iff {inside : List Char} (h : Reads opened x inside) :
    Closes opened (brackets (x :: text)) ↔ Closes inside (brackets text) := by
  cases h with
  | opening hpair => rw [brackets_cons_opening hpair, closes_opening hpair]
  | closing hpair =>
    rw [brackets_cons_closing hpair, closes_closing hpair]
    simp
  | other hother => rw [brackets_cons_other hother]

/-- A text that closes what is open starts with a character that can be read there. -/
theorem exists_reads_of_closes (h : Closes opened (brackets (x :: text))) :
    ∃ inside, Reads opened x inside := by
  by_cases hx : isBracket x
  · obtain ⟨c, hpair⟩ | ⟨o, hpair⟩ := isBracket_iff.1 hx
    · exact ⟨_, .opening hpair⟩
    · rw [brackets_cons_closing hpair, closes_closing hpair] at h
      obtain ⟨outer, rfl, -⟩ := h
      exact ⟨outer, .closing hpair⟩
  · exact ⟨opened, .other hx⟩

theorem Reads.completableBehind_iff {inside : List Char} (h : Reads opened x inside) :
    CompletableBehind opened (x :: text) ↔ CompletableBehind inside text := by
  simp only [CompletableBehind, List.cons_append, h.closes_iff]

/-- The beginning of a completable text is completable. -/
theorem CompletableBehind.of_isPrefix {before : List Char} (h : CompletableBehind opened text)
    (hbegins : before <+: text) : CompletableBehind opened before := by
  obtain ⟨rest, rfl⟩ := hbegins
  obtain ⟨more, hcloses⟩ := h
  exact ⟨rest ++ more, by rwa [← List.append_assoc]⟩

/-- Brackets can be closed. -/
theorem completableBehind_nil (h : ∀ o ∈ opened, isOpening o) : CompletableBehind opened [] := by
  induction opened with
  | nil => exact ⟨[], .nil⟩
  | cons o opened ih =>
    obtain ⟨c, hpair⟩ := isOpening_iff.1 (h o List.mem_cons_self)
    obtain ⟨more, hcloses⟩ := ih fun b hb => h b (List.mem_cons_of_mem o hb)
    exact ⟨c :: more, (Reads.closing hpair).closes_iff.2 hcloses⟩

/-- The rest of a text that closes what is open closes what is open there. -/
theorem exists_closes_of_append (h : Closes opened (brackets (u ++ v))) :
    ∃ inside, Closes inside (brackets v) := by
  induction u generalizing opened with
  | nil => exact ⟨opened, h⟩
  | cons x u ih =>
    obtain ⟨inside, hreads⟩ := exists_reads_of_closes h
    exact ih (hreads.closes_iff.1 h)

/-- In a text with balanced brackets, every opening bracket is closed. -/
theorem isClosedIn_of_balanced (h : Balanced (brackets (u ++ o :: v))) (ho : isOpening o) :
    IsClosedIn o v := by
  obtain ⟨d, hpair⟩ := isOpening_iff.1 ho
  have hwhole : Closes [] (brackets (u ++ o :: v)) := h
  obtain ⟨opened, hcloses⟩ := exists_closes_of_append hwhole
  obtain ⟨inner, c, rest, hword, hpair, hinner, -⟩ :=
    (Reads.opening hpair).closes_iff.1 hcloses
  -- from the brackets back to the text between which they stand
  obtain ⟨before, behind, rfl, rfl, hbehind⟩ := List.filter_eq_append_iff.1 hword
  obtain ⟨skipped, rest, rfl, hskipped, -⟩ := List.filter_eq_cons_iff.1 hbehind
  refine ⟨before ++ skipped, c, rest, by simp, hpair, ?_⟩
  rwa [brackets_append, show brackets skipped = [] from List.filter_eq_nil_iff.2 hskipped,
    List.append_nil]

/-- A text with balanced brackets closes no bracket before it. -/
theorem not_isClosedIn_of_balanced (h : Balanced (brackets text)) : ¬IsClosedIn o text := by
  rintro ⟨inner, c, rest, rfl, hpair, hinner⟩
  rw [brackets_append, brackets_cons_closing hpair] at h
  have hclosing : Closes [] (c :: brackets rest) := hinner.closes_append.1 h
  obtain ⟨_, hnil, -⟩ := (closes_closing hpair).1 hclosing
  exact nomatch hnil

/-! ### The scan of the brackets -/

variable {line n : Nat} {entries : List (Char × Nat)}

/-- The scan skips what is no bracket. -/
theorem not_isBracket_of_opening?_eq_none (ho : ¬isOpening x) (hc : opening? x = none) :
    ¬isBracket x := by
  rw [isBracket_iff, ← isOpening_iff]
  rintro (h | ⟨o, h⟩)
  · exact ho h
  · exact nomatch hc.symm.trans (opening?_eq_some_iff.2 h)

theorem not_isBracket_newline : ¬isBracket '\n' := by decide

/-- A closing bracket that finds the wrong bracket open, or none, cannot be read. -/
theorem not_closes_of_ne (h : (o, c) ∈ bracketPairs) (hne : ∀ outer, opened ≠ o :: outer) :
    ¬Closes opened (brackets (c :: text)) := by
  rw [brackets_cons_closing h, closes_closing h]
  rintro ⟨outer, houter, -⟩
  exact hne outer houter

/-- The scan finds nothing wrong in a text if and only if the text closes the open brackets and is
    balanced otherwise. -/
theorem bracketFault?_eq_none_iff :
    bracketFault? entries line text = none ↔ Closes (entries.map Prod.fst) (brackets text) := by
  fun_induction bracketFault? entries line text with
  | case1 => simp [Closes, brackets, Balanced.nil]
  | case2 line bracket n rest => simp [Closes, brackets]
  | case3 entries line rest ih => rw [ih, (Reads.other not_isBracket_newline).closes_iff]
  | case4 entries line x rest _ ho ih =>
    obtain ⟨c, hpair⟩ := isOpening_iff.1 ho
    rw [ih, (Reads.opening hpair).closes_iff, List.map_cons]
  | case5 entries line x rest _ ho hc ih =>
    rw [ih, (Reads.other (not_isBracket_of_opening?_eq_none ho hc)).closes_iff]
  | case6 line x rest _ _ found n entries hx ih =>
    rw [ih, List.map_cons, (Reads.closing (opening?_eq_some_iff.1 hx)).closes_iff]
  | case7 line x rest _ _ expected hx found n entries hne =>
    simp [not_closes_of_ne (opening?_eq_some_iff.1 hx), hne]
  | case8 line x rest _ _ expected hx =>
    simp [not_closes_of_ne (opening?_eq_some_iff.1 hx)]

/-- The bracket ends the shortest beginning of a text that cannot be completed, with its line. -/
def Unexpected (opened : List Char) (line : Nat) (text : List Char) (n : Nat) (c : Char) : Prop :=
  ∃ before behind, text = before ++ c :: behind ∧ n = line + before.count '\n' ∧
    (∃ o, (o, c) ∈ bracketPairs) ∧ CompletableBehind opened before ∧
    ¬CompletableBehind opened (before ++ [c])

theorem Unexpected.cons {inside : List Char} (hreads : Reads opened x inside)
    (h : Unexpected inside (line + [x].count '\n') text n c) :
    Unexpected opened line (x :: text) n c := by
  obtain ⟨before, behind, rfl, rfl, hc, hbefore, hdead⟩ := h
  refine ⟨x :: before, behind, rfl, ?_, hc, hreads.completableBehind_iff.2 hbefore, ?_⟩
  · rw [Nat.add_assoc, ← List.count_append, List.singleton_append]
  · rwa [List.cons_append, hreads.completableBehind_iff]

/-- A closing bracket that finds the wrong bracket open, or none, is unexpected. -/
theorem unexpected_of_ne (h : (o, c) ∈ bracketPairs) (hopened : ∀ b ∈ opened, isOpening b)
    (hne : ∀ outer, opened ≠ o :: outer) : Unexpected opened line (c :: text) line c :=
  ⟨[], text, rfl, rfl, ⟨o, h⟩, completableBehind_nil hopened,
    fun ⟨_, hcloses⟩ => not_closes_of_ne h hne hcloses⟩

/-- A bracket that the scan does not expect ends the shortest beginning of the text that cannot be
    completed. -/
theorem bracketFault?_unexpected (hentries : ∀ b ∈ entries.map Prod.fst, isOpening b)
    (h : bracketFault? entries line text = some (.unexpected n c)) :
    Unexpected (entries.map Prod.fst) line text n c := by
  fun_induction bracketFault? entries line text with
  | case1 | case2 => exact nomatch h
  | case3 entries line rest ih => exact .cons (.other not_isBracket_newline) (ih hentries h)
  | case4 entries line x rest hline ho ih =>
    obtain ⟨d, hpair⟩ := isOpening_iff.1 ho
    refine .cons (.opening hpair) ?_
    rw [List.count_singleton, if_neg (by simpa using hline)]
    exact ih (List.forall_mem_cons.2 ⟨ho, hentries⟩) h
  | case5 entries line x rest hline ho hx ih =>
    refine .cons (.other (not_isBracket_of_opening?_eq_none ho hx)) ?_
    rw [List.count_singleton, if_neg (by simpa using hline)]
    exact ih hentries h
  | case6 line x rest hline _ found m entries hx ih =>
    refine .cons (.closing (opening?_eq_some_iff.1 hx)) ?_
    rw [List.count_singleton, if_neg (by simpa using hline)]
    exact ih (List.forall_mem_cons.1 hentries).2 h
  | case7 line x rest _ _ expected hx found m entries hne =>
    obtain ⟨rfl, rfl⟩ := BracketFault.unexpected.inj (Option.some.inj h)
    exact unexpected_of_ne (opening?_eq_some_iff.1 hx) hentries (by simp [hne])
  | case8 line x rest _ _ expected hx =>
    obtain ⟨rfl, rfl⟩ := BracketFault.unexpected.inj (Option.some.inj h)
    exact unexpected_of_ne (opening?_eq_some_iff.1 hx) hentries (by simp)

/-- The bracket is the last one of a text that nothing closes, with its line, or it is open before
    the text, and then the text closes the brackets that were opened after it. -/
def Unterminated (entries : List (Char × Nat)) (line : Nat) (text : List Char) (n : Nat)
    (o : Char) : Prop :=
  (∃ before behind, text = before ++ o :: behind ∧ n = line + before.count '\n' ∧ isOpening o ∧
      Balanced (brackets behind)) ∨
    ∃ closed outer, entries = closed ++ (o, n) :: outer ∧
      Closes (closed.map Prod.fst) (brackets text)

theorem Unterminated.cons_opening (hpair : (x, c) ∈ bracketPairs) (hline : x ≠ '\n')
    (h : Unterminated ((x, line) :: entries) line text n o) :
    Unterminated entries line (x :: text) n o := by
  rcases h with ⟨before, behind, rfl, rfl, hbehind⟩ | ⟨closed, outer, hclosed, hcloses⟩
  · exact .inl ⟨x :: before, behind, rfl, by rw [List.count_cons_of_ne hline], hbehind⟩
  · -- either this bracket is the one, or the text closes it
    cases closed with
    | nil =>
      obtain ⟨⟨⟩, rfl⟩ := List.cons.inj hclosed
      exact .inl ⟨[], text, rfl, rfl, isOpening_iff.2 ⟨c, hpair⟩, hcloses⟩
    | cons first closed =>
      obtain ⟨rfl, rfl⟩ := List.cons.inj hclosed
      exact .inr ⟨closed, outer, rfl, (Reads.opening hpair).closes_iff.2 hcloses⟩

theorem Unterminated.cons_closing {found : Char × Nat} (hpair : (found.1, x) ∈ bracketPairs)
    (hline : x ≠ '\n') (h : Unterminated entries line text n o) :
    Unterminated (found :: entries) line (x :: text) n o := by
  rcases h with ⟨before, behind, rfl, rfl, hbehind⟩ | ⟨closed, outer, rfl, hcloses⟩
  · exact .inl ⟨x :: before, behind, rfl, by rw [List.count_cons_of_ne hline], hbehind⟩
  · exact .inr ⟨found :: closed, outer, rfl, (Reads.closing hpair).closes_iff.2 hcloses⟩

theorem Unterminated.cons_other (hother : ¬isBracket x)
    (h : Unterminated entries (line + [x].count '\n') text n o) :
    Unterminated entries line (x :: text) n o := by
  refine h.imp ?_ ?_
  · rintro ⟨before, behind, rfl, rfl, hbehind⟩
    refine ⟨x :: before, behind, rfl, ?_, hbehind⟩
    rw [Nat.add_assoc, ← List.count_append, List.singleton_append]
  · rintro ⟨closed, outer, rfl, hcloses⟩
    exact ⟨closed, outer, rfl, (Reads.other hother).closes_iff.2 hcloses⟩

/-- A text in which the scan misses the end of a bracket can be completed. -/
theorem bracketFault?_unterminated (hentries : ∀ b ∈ entries.map Prod.fst, isOpening b)
    (h : bracketFault? entries line text = some (.unterminated n o)) :
    CompletableBehind (entries.map Prod.fst) text ∧ Unterminated entries line text n o := by
  fun_induction bracketFault? entries line text with
  | case1 | case7 | case8 => exact nomatch h
  | case2 line bracket _ outer =>
    obtain ⟨rfl, rfl⟩ := BracketFault.unterminated.inj (Option.some.inj h)
    exact ⟨completableBehind_nil hentries, .inr ⟨[], outer, rfl, .nil⟩⟩
  | case3 entries line rest ih =>
    have hother := not_isBracket_newline
    obtain ⟨hcompletable, hwhere⟩ := ih hentries h
    exact ⟨(Reads.other hother).completableBehind_iff.2 hcompletable, .cons_other hother hwhere⟩
  | case4 entries line x rest hline ho ih =>
    obtain ⟨d, hpair⟩ := isOpening_iff.1 ho
    obtain ⟨hcompletable, hwhere⟩ := ih (List.forall_mem_cons.2 ⟨ho, hentries⟩) h
    exact ⟨(Reads.opening hpair).completableBehind_iff.2 hcompletable,
      .cons_opening hpair hline hwhere⟩
  | case5 entries line x rest hline ho hx ih =>
    have hother := not_isBracket_of_opening?_eq_none ho hx
    obtain ⟨hcompletable, hwhere⟩ := ih hentries h
    refine ⟨(Reads.other hother).completableBehind_iff.2 hcompletable, .cons_other hother ?_⟩
    rwa [List.count_singleton, if_neg (by simpa using hline)]
  | case6 line x rest hline _ found m entries hx ih =>
    have hpair := opening?_eq_some_iff.1 hx
    obtain ⟨hcompletable, hwhere⟩ := ih (List.forall_mem_cons.1 hentries).2 h
    exact ⟨(Reads.closing hpair).completableBehind_iff.2 hcompletable,
      .cons_closing hpair hline hwhere⟩

/-! ### Program texts -/

theorem declaration_ne_brackets {fault : BracketFault} :
    declaration text ≠ .error (.brackets fault) := by
  unfold declaration
  split
  · simp
  · dsimp only
    split_ifs
    · simp
    · split <;> simp

theorem declarations_ne_brackets {fault : BracketFault} :
    declarations text ≠ .error (.brackets fault) := by
  fun_induction declarations text with
  | case1 => simp
  | case2 text behind hbehind other hother =>
    rintro ⟨⟩
    exact declaration_ne_brackets hother
  | case3 text behind _ decl rest _ other hother ih => rwa [hother] at ih
  | case4 => simp

/-- The scan complains about brackets exactly where the walk over them does. -/
theorem scan_eq_brackets_iff {source : String} {fault : BracketFault} :
    scan source = .error (.brackets fault) ↔ bracketFault? [] 1 source.toList = some fault := by
  rw [scan]
  cases hfault : bracketFault? [] 1 source.toList with
  | some found => simp
  | none =>
    cases hdecls : declarations source.toList with
    | error other =>
      have hne : Except.error other ≠ Except.error (.brackets fault) :=
        hdecls ▸ declarations_ne_brackets
      simpa using hne
    | ok decls => cases decls <;> simp

/-- The scan finds the brackets of a program text in order if and only if they are balanced. If
    some beginning of the text cannot be completed, it complains about the bracket that ends the
    shortest one. Otherwise it complains about the last opening bracket that nothing closes. Lines
    are counted by the line feeds before the bracket. -/
theorem scan_brackets (source : String) :
    (Balanced (brackets source.toList) ↔ ∀ fault, scan source ≠ .error (.brackets fault)) ∧
      ((∃ before, before <+: source.toList ∧ ¬Completable before) →
        ∃ before c behind, source.toList = before ++ c :: behind ∧
          (∃ o, (o, c) ∈ bracketPairs) ∧ (∀ shorter, shorter <+: before → Completable shorter) ∧
          ¬Completable (before ++ [c]) ∧
          scan source = .error (.brackets (.unexpected (1 + before.count '\n') c))) ∧
      (¬Balanced (brackets source.toList) →
        (∀ before, before <+: source.toList → Completable before) →
        ∃ before o behind, source.toList = before ++ o :: behind ∧
          (∃ c, (o, c) ∈ bracketPairs) ∧ ¬IsClosedIn o behind ∧
          (∀ u other v, behind = u ++ other :: v → (∃ c, (other, c) ∈ bracketPairs) →
            IsClosedIn other v) ∧
          scan source = .error (.brackets (.unterminated (1 + before.count '\n') o))) := by
  have hnone : bracketFault? [] 1 source.toList = none ↔ Balanced (brackets source.toList) :=
    bracketFault?_eq_none_iff
  have hopened : ∀ b ∈ ([] : List (Char × Nat)).map Prod.fst, isOpening b := by simp
  refine ⟨?_, ?_, fun hunbalanced hcompletable => ?_⟩
  · simp only [← hnone, Option.eq_none_iff_forall_ne_some, ne_eq, scan_eq_brackets_iff]
  · rintro ⟨dead, hdead, hnot⟩
    have hnot : ¬Completable source.toList := fun h =>
      hnot ((completable_iff.1 h).of_isPrefix hdead)
    cases hfault : bracketFault? [] 1 source.toList with
    | none => exact absurd ⟨[], by rw [List.append_nil]; exact hnone.1 hfault⟩ hnot
    | some fault =>
      cases fault with
      | unterminated => exact absurd (bracketFault?_unterminated hopened hfault).1 hnot
      | unexpected n c =>
        obtain ⟨before, behind, htext, rfl, hc, hbefore, hdead⟩ :=
          bracketFault?_unexpected hopened hfault
        exact ⟨before, c, behind, htext, hc, fun _ hshorter => hbefore.of_isPrefix hshorter, hdead,
          scan_eq_brackets_iff.2 hfault⟩
  · cases hfault : bracketFault? [] 1 source.toList with
    | none => exact absurd (hnone.1 hfault) hunbalanced
    | some fault =>
      cases fault with
      | unexpected n c =>
        obtain ⟨before, behind, htext, -, -, -, hdead⟩ := bracketFault?_unexpected hopened hfault
        refine absurd (hcompletable (before ++ [c]) ⟨behind, ?_⟩) hdead
        rw [htext, List.append_assoc, List.singleton_append]
      | unterminated n o =>
        obtain ⟨-, ⟨before, behind, htext, rfl, ho, hbehind⟩ | ⟨closed, outer, hnil, -⟩⟩ :=
          bracketFault?_unterminated hopened hfault
        · refine ⟨before, o, behind, htext, isOpening_iff.1 ho, not_isClosedIn_of_balanced hbehind,
            ?_, scan_eq_brackets_iff.2 hfault⟩
          rintro u other v rfl hother
          exact isClosedIn_of_balanced hbehind (isOpening_iff.2 hother)
        · simp at hnil

/-- A bracket of the wrong kind in the second line, and one in the second line that is left open. -/
theorem scan_brackets_of_crossed :
    let crossed := "(\n[)"
    let unclosed := "(\n\x7b[]"
    (∃ before, before <+: crossed.toList ∧ ¬Completable before) ∧
      (∃ before c behind, crossed.toList = before ++ c :: behind ∧
        scan crossed = .error (.brackets (.unexpected (1 + before.count '\n') c))) ∧
      ¬Balanced (brackets unclosed.toList) ∧
      (∀ before, before <+: unclosed.toList → Completable before) ∧
      ∃ before o behind, unclosed.toList = before ++ o :: behind ∧ ¬IsClosedIn o behind ∧
        scan unclosed = .error (.brackets (.unterminated (1 + before.count '\n') o)) := by
  intro crossed unclosed
  have hcrossed : bracketFault? [] 1 crossed.toList = some (.unexpected 2 ')') := by decide +kernel
  have hunclosed : bracketFault? [] 1 unclosed.toList = some (.unterminated 2 '\x7b') := by
    decide +kernel
  obtain ⟨before, behind, htext, -, -, -, hdead⟩ := bracketFault?_unexpected (by simp) hcrossed
  have hbegins : before ++ [')'] <+: crossed.toList :=
    ⟨behind, by rw [htext, List.append_assoc, List.singleton_append]⟩
  have hcompletable : ∀ before, before <+: unclosed.toList → Completable before :=
    fun _ hbefore => (bracketFault?_unterminated (by simp) hunclosed).1.of_isPrefix hbefore
  have hunbalanced : ¬Balanced (brackets unclosed.toList) := fun h =>
    (scan_brackets unclosed).1.1 h _ (scan_eq_brackets_iff.2 hunclosed)
  obtain ⟨at', c, behind', htext', -, -, -, hscan⟩ :=
    (scan_brackets crossed).2.1 ⟨_, hbegins, hdead⟩
  obtain ⟨at'', o, behind'', htext'', -, hclosed, -, hscan'⟩ :=
    (scan_brackets unclosed).2.2 hunbalanced hcompletable
  exact ⟨⟨_, hbegins, hdead⟩, ⟨at', c, behind', htext', hscan⟩, hunbalanced, hcompletable, at'', o,
    behind'', htext'', hclosed, hscan'⟩

end Offload.Source
