import Mathlib.Data.String.Basic
import Offload.Files.Tree

/-!
# Edits of files

What is saved takes two kinds of edits: directories are made, and a text becomes the content of a
file (`Files.edit`). Edits are made one after the other until one of them fails (`Files.editAll`).
In a file tree a text that was saved can be read back (`FileTree.read_withText`), and no path leads
elsewhere for it (`FileTree.find_put`).
-/

namespace Offload

namespace Files

/-- What is done to save something. -/
inductive Edit where
  /-- A directory is made, and those it lies in. -/
  | directories (path : String)
  /-- A file gets a text for its content. -/
  | text (path text : String)
  deriving DecidableEq, Repr

variable {φ : Type} [Files Id φ]

/-- Makes an edit. -/
def edit : Edit → φ → Except FileFault Unit × φ
  | .directories path, files => makeDirectories (m := Id) path files
  | .text path text, files =>
    match create (m := Id) path files with
    | (.ok (), files) => append (m := Id) path text files
    | (.error fault, files) => (.error fault, files)

/-- Makes edits, one after the other, until one fails. -/
def editAll : List Edit → φ → Except FileFault Unit × φ
  | [], files => (.ok (), files)
  | first :: edits, files =>
    match edit first files with
    | (.ok (), files) => editAll edits files
    | (.error fault, files) => (.error fault, files)

theorem editAll_cons_eq_ok {first : Edit} {edits : List Edit} {files after : φ} :
    editAll (first :: edits) files = (.ok (), after) ↔
      ∃ between, edit first files = (.ok (), between) ∧
        editAll edits between = (.ok (), after) := by
  rw [editAll]
  rcases edit first files with ⟨_ | _, between⟩
  · simp
  · simp

/-- Edits are made after others. -/
theorem editAll_append_eq_ok {edits edits' : List Edit} {files after : φ} :
    editAll (edits ++ edits') files = (.ok (), after) ↔
      ∃ between, editAll edits files = (.ok (), between) ∧
        editAll edits' between = (.ok (), after) := by
  induction edits generalizing files with
  | nil => simp [editAll]
  | cons first edits ih =>
    simp only [List.cons_append, editAll_cons_eq_ok, ih]
    constructor
    · rintro ⟨between, hfirst, middle, hrest, hafter⟩
      exact ⟨middle, ⟨between, hfirst, hrest⟩, hafter⟩
    · rintro ⟨middle, ⟨between, hfirst, hrest⟩, hafter⟩
      exact ⟨between, hfirst, middle, hrest, hafter⟩

/-! ### Parts of paths -/

section

open String

/-- The parts of a path of which `l` has been cut off and `m` is the part under way. -/
theorem splitOnAux_slash (l m r : List Char) (acc : List String) :
    splitOnAux (ofList (l ++ m ++ r)) "/" ⟨utf8Len l⟩ ⟨utf8Len (l ++ m)⟩ 0 acc =
      acc.reverse ++ (List.splitOnPPrepend (· == '/') r m.reverse).map ofList := by
  have hpart (l m r : List Char) :
      Pos.Raw.extract (ofList (l ++ m ++ r)) ⟨utf8Len l⟩ ⟨utf8Len (l ++ m)⟩ = ofList m := by
    rw [utf8Len_append]
    exact extract_of_valid l m r
  induction r generalizing l m acc with
  | nil =>
    rw [splitOnAux.eq_def, if_pos ((atEnd_of_valid (l ++ m) []).2 rfl), hpart]
    simp
  | cons c r ih =>
    have hend : ¬ Pos.Raw.atEnd (ofList (l ++ m ++ c :: r)) ⟨utf8Len (l ++ m)⟩ = true :=
      fun h => List.cons_ne_nil _ _ ((atEnd_of_valid (l ++ m) (c :: r)).1 h)
    have hslash : Pos.Raw.get "/" 0 = '/' := by decide +kernel
    have hnext : Pos.Raw.next (ofList (l ++ m ++ c :: r)) ⟨utf8Len (l ++ m)⟩ =
        ⟨utf8Len (l ++ m ++ [c])⟩ := by
      rw [next_of_valid, utf8Len_append (l ++ m), utf8Len_cons, utf8Len_nil, Nat.zero_add]
    rw [splitOnAux.eq_def, if_neg hend, get_of_valid, hslash, List.headD_cons,
      List.splitOnPPrepend_cons_eq_if]
    split
    · -- the part under way ends, and the next one starts behind the slash
      rename_i hc
      obtain rfl := beq_iff_eq.1 hc
      have hsep : Pos.Raw.atEnd "/" (Pos.Raw.next "/" 0) = true := by decide +kernel
      have hback : (⟨utf8Len (l ++ m ++ ['/'])⟩ : Pos.Raw).unoffsetBy (Pos.Raw.next "/" 0) =
          ⟨utf8Len (l ++ m)⟩ := by
        rw [utf8Len_append (l ++ m)]
        rfl
      have hrest := ih (l ++ m ++ ['/']) [] (ofList m :: acc)
      rw [List.append_nil, ← List.append_cons] at hrest
      simp only [hnext, hsep, if_true, hback, hpart, hrest]
      simp
    · have hback : (⟨utf8Len (l ++ m)⟩ : Pos.Raw).unoffsetBy 0 = ⟨utf8Len (l ++ m)⟩ := rfl
      have hrest := ih l (m ++ [c]) acc
      rw [← List.append_assoc, ← List.append_cons, List.reverse_concat] at hrest
      rw [hback, hnext, hrest]

/-- A path is cut at its slashes. -/
theorem splitOn_slash (path : String) :
    path.splitOn "/" = (path.toList.splitOnP (· == '/')).map ofList := by
  have hsep : ("/" == "") = false := by decide
  have hall := splitOnAux_slash [] [] path.toList []
  rw [splitOn, hsep]
  simpa using hall

end

end Files

namespace FileTree

variable {tree : FileTree}

theorem entry?_put_self {place : List String} (hplace : place ≠ []) (entry : Entry) :
    entry? (tree.put place entry) place = some entry := by
  rw [ entry?, if_neg hplace, put, List.lookup_cons_self]

theorem entry?_put_of_ne {place other : List String} (hne : other ≠ place) (entry : Entry) :
    entry? (tree.put place entry) other = tree.entry? other := by
  have hlookup (entries : List (List String × Entry)) :
      (entries.filter fun old => old.1 ≠ place).lookup other = entries.lookup other := by
    induction entries with
    | nil => rfl
    | cons first entries ih =>
      by_cases hfirst : first.1 = place
      · rw [List.filter_cons_of_neg (by simpa using hfirst), ih, List.lookup_cons,
          beq_false_of_ne (hfirst ▸ hne)]
      · rw [List.filter_cons_of_pos (by simpa using hfirst), List.lookup_cons, List.lookup_cons, ih]
  rw [ entry?, entry?, put, List.lookup_cons, beq_false_of_ne hne, hlookup]

/-- There is always a directory at the root. -/
theorem ne_nil_of_not_directory {place : List String} (h : tree.entry? place ≠ some .directory) :
    place ≠ [] := by
  rintro rfl
  exact h rfl

/-- A path passes through directories only, so what else there is does not matter to it. -/
theorem locate_put {place : List String} (hplace : tree.entry? place ≠ some .directory)
    (entry : Entry) {start goal parts : List String} (h : tree.locate start parts = .ok goal) :
    (tree.put place entry).locate start parts = .ok goal := by
  induction parts generalizing start with
  | nil => exact h
  | cons part parts ih =>
    rw [locate] at h ⊢
    cases hentry : tree.entry? start with
    | none =>
      rw [hentry] at h
      cases h
    | some there =>
      cases there with
      | file content =>
        rw [hentry] at h
        cases h
      | directory =>
        have hne : start ≠ place := fun hsame => hplace (hsame ▸ hentry)
        rw [entry?_put_of_ne hne, hentry]
        rw [hentry] at h
        simp only at h ⊢
        split_ifs at h ⊢
        · exact ih h
        · exact ih h
        · exact ih h

theorem find_put {place : List String} (hplace : tree.entry? place ≠ some .directory)
    (entry : Entry) {path : String} {goal : List String} (h : tree.find path = .ok goal) :
    (tree.put place entry).find path = .ok goal := by
  rw [find, follow] at h ⊢
  split_ifs at h ⊢
  exact locate_put hplace entry h

theorem makeDirectory_eq_ok {path : String} {place : List String}
    (hfollow : tree.follow path ((path.splitOn "/").reverse.dropWhile (· = "")).reverse = .ok place)
    (hplace : tree.entry? place = none) :
    tree.makeDirectory path = .ok (tree.put place .directory) := by
  simp only [makeDirectory, hfollow, hplace, bind, Except.bind]

/-- Where a directory can be made by itself, there is no need for others. -/
theorem makeDirectories_of_makeDirectory {path : String} (hpath : path ≠ "") {made : FileTree}
    (h : tree.makeDirectory path = .ok made) :
    Files.makeDirectories (m := Id) path tree = (.ok (), made) := by
  have hmake : Files.makeDirectory (m := Id) path tree = (.ok (), made) :=
    congrArg tree.settled h
  have hensure : Files.ensureDirectory (m := Id) path tree = (.ok (), made) := by
    rw [Files.ensureDirectory, hmake]
    rfl
  rw [Files.makeDirectories, if_neg hpath, Files.ensureAfter, hensure]
  rfl

/-- The tree with a text for the content of a file. -/
def withText (tree : FileTree) (place : List String) (text : String) : FileTree :=
  (tree.put place (.file .empty)).put place (.file text.toUTF8)

section

variable {path : String} {place : List String} (hfind : tree.find path = .ok place)
  (hplace : tree.entry? place ≠ some .directory)

include hfind hplace

theorem create_eq_ok : tree.create path = .ok (tree.put place (.file .empty)) := by
  simp only [create, hfind, bind, Except.bind]

/-- A file can be saved where there is no directory. -/
theorem edit_text (text : String) :
    Files.edit (.text path text) tree = (.ok (), tree.withText place text) := by
  have hcreate : Files.create (m := Id) path tree = (.ok (), tree.put place (.file .empty)) :=
    congrArg tree.settled (create_eq_ok hfind hplace)
  have happend : (tree.put place (.file .empty)).append path text =
      .ok (tree.withText place text) := by
    simp only [append, find_put hplace _ hfind, bind, Except.bind,
      entry?_put_self (ne_nil_of_not_directory hplace), ByteArray.empty_append, withText]
  rw [Files.edit, hcreate]
  exact congrArg (settled _) happend

end

theorem entry?_withText_ne_directory {place other : List String}
    (hplace : tree.entry? place ≠ some .directory) (hother : tree.entry? other ≠ some .directory)
    (text : String) : entry? (tree.withText place text) other ≠ some .directory := by
  by_cases hsame : other = place
  · subst hsame
    rw [withText, entry?_put_self (ne_nil_of_not_directory hplace)]
    simp
  · rwa [withText, entry?_put_of_ne hsame, entry?_put_of_ne hsame]

theorem find_withText {place : List String} (hplace : tree.entry? place ≠ some .directory)
    (text : String) {path : String} {goal : List String} (h : tree.find path = .ok goal) :
    (tree.withText place text).find path = .ok goal := by
  refine find_put ?_ _ (find_put hplace _ h)
  rw [entry?_put_self (ne_nil_of_not_directory hplace)]
  simp

/-- What was saved can be read back. -/
theorem read_withText {path : String} {place : List String} (hfind : tree.find path = .ok place)
    (hplace : tree.entry? place ≠ some .directory) (text : String) :
    (tree.withText place text).read path = .ok text := by
  have hcontent : entry? (tree.withText place text) place = some (.file text.toUTF8) :=
    entry?_put_self (ne_nil_of_not_directory hplace) _
  have htext : String.fromUTF8? text.toUTF8 = some text := dif_pos text.isValidUTF8
  simp only [read, at?, find_withText hplace text hfind, bind, Except.bind, hcontent, htext]

end FileTree

end Offload
