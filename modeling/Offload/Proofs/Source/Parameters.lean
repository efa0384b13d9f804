import Offload.Host.Program
import Offload.Proofs.Source.Decomposition

/-!
# Parameters that contain brackets

The parameters of a declaration stand between the parenthesis behind its name and the one that
closes it. What separates them are the commas outside inner brackets (`outerCommas`). The scan does
not look for the closing parenthesis: it counts all commas up to the first parenthesis that closes
anything (`flatCommas`). For a list without brackets this makes no difference. In general it does:
a kernel of four parameters, the first of which has an attribute, is listed with one and refused
(`checkKernel_of_attribute`).

* `paramCount_eq_iff`: the scan counts the parameters of a list if and only if the two numbers of
  commas agree;
* `Host.Program.checkKernel_by_params`: what this means for the declarations of a program, and for
  the kernel that is made of the first one called `vecadd`.
-/

namespace Offload

namespace Source

open Text

variable {text list rest : List Char} {o c : Char}

/-- The commas of a list outside its brackets, if it starts inside this many. -/
def outerCommas : Nat → List Char → Nat
  | _, [] => 0
  | depth, c :: text =>
    if isOpening c then outerCommas (depth + 1) text
    else if (opening? c).isSome then outerCommas (depth - 1) text
    else if c = ',' ∧ depth = 0 then outerCommas depth text + 1
    else outerCommas depth text

/-- The commas of a list up to the first closing parenthesis. -/
def flatCommas (list : List Char) : Nat :=
  (list.takeWhile (· != ')')).count ','

/-- The number of parameters between two parentheses. -/
def paramsBetween (list : List Char) : Nat :=
  if trim list = [] ∨ trim list = voidWord then 0 else outerCommas 0 list + 1

/-- The text stands between the parenthesis behind the name and the one that closes it. -/
def Written.HasParams (w : Written) (after : List Written) (list : List Char) : Prop :=
  ∃ blanks behind rest, w.tail = blanks ++ '(' :: behind ∧ (∀ c ∈ blanks, isBlank c) ∧
    behind ++ after.flatMap Written.spelling = list ++ ')' :: rest ∧ Balanced (brackets list)

/-! ### Lists of parameters -/

/-- Only blanks are trimmed. -/
theorem count_trim (h : ¬isBlank c) : (trim text).count c = text.count c := by
  have hdrop (text : List Char) : (text.dropWhile isBlank).count c = text.count c := by
    have hnone : (text.takeWhile isBlank).count c = 0 :=
      List.count_eq_zero.2 fun hmem => h (List.mem_takeWhile_imp hmem)
    rw [← Nat.zero_add (List.count c _), ← hnone, ← List.count_append,
      List.takeWhile_append_dropWhile]
  rw [trim, trimEnd, trimStart, List.count_reverse, hdrop, List.count_reverse, hdrop]

/-- A list with a parenthesis in it is not empty. -/
theorem not_empty_of_mem (h : '(' ∈ list) : ¬(trim list = [] ∨ trim list = voidWord) := by
  have hmem : '(' ∈ trim list := by
    rw [← List.count_pos_iff, count_trim (by decide)]
    exact List.count_pos_iff.2 h
  rintro (hnil | hvoid)
  · rw [hnil] at hmem
    cases hmem
  · rw [hvoid] at hmem
    exact absurd hmem (by decide)

/-- An empty list has no commas. -/
theorem count_of_empty (h : trim list = [] ∨ trim list = voidWord) : list.count ',' = 0 := by
  rw [← count_trim (by decide)]
  rcases h with h | h <;> rw [h] <;> decide

/-- A bracket that closes another one stands behind it. -/
theorem mem_of_closes {opened u v : List Char} (hpair : (o, c) ∈ bracketPairs)
    (h : Closes opened (brackets (u ++ c :: v))) : o ∈ opened ∨ o ∈ u := by
  induction u generalizing opened with
  | nil =>
    rw [List.nil_append, brackets_cons_closing hpair, closes_closing hpair] at h
    obtain ⟨outer, rfl, -⟩ := h
    exact .inl List.mem_cons_self
  | cons x u ih =>
    obtain ⟨inside, hreads⟩ := exists_reads_of_closes h
    rcases ih (hreads.closes_iff.1 h) with hmem | hmem
    · cases hreads with
      | opening _ =>
        rcases List.mem_cons.1 hmem with rfl | hmem
        · exact .inr List.mem_cons_self
        · exact .inl hmem
      | closing _ => exact .inl (List.mem_cons_of_mem _ hmem)
      | other _ => exact .inl hmem
    · exact .inr (List.mem_cons_of_mem x hmem)

/-- Behind the parenthesis, the closed list is known. -/
theorem list_unique {list' rest' : List Char} (h : list ++ ')' :: rest = list' ++ ')' :: rest')
    (hlist : Balanced (brackets list)) (hlist' : Balanced (brackets list')) : list = list' := by
  -- the shorter one ends at a parenthesis that closes nothing in the longer one
  have hshorter {list list' behind : List Char} (hlist : Balanced (brackets list))
      (hlist' : Balanced (brackets list')) (heq : list' = list ++ ')' :: behind) : False :=
    not_isClosedIn_of_balanced hlist' (isClosedIn_parenthesis.2 ⟨list, behind, heq, hlist⟩)
  rcases List.append_eq_append_iff.1 h with ⟨more, rfl, hmore⟩ | ⟨more, rfl, hmore⟩
  · cases more with
    | nil => rw [List.append_nil]
    | cons x more =>
      obtain ⟨rfl, -⟩ := List.cons.inj hmore
      exact (hshorter hlist hlist' rfl).elim
  · cases more with
    | nil => rw [List.append_nil]
    | cons x more =>
      obtain ⟨rfl, -⟩ := List.cons.inj hmore
      exact (hshorter hlist' hlist rfl).elim

/-! ### Commas -/

theorem outerCommas_le_count (depth : Nat) (list : List Char) :
    outerCommas depth list ≤ list.count ',' := by
  fun_induction outerCommas depth list with
  | case1 => exact Nat.zero_le _
  | case2 depth c text _ ih | case3 depth c text _ _ ih =>
    exact ih.trans (List.count_le_count_cons ..)
  | case4 depth c text _ _ h ih =>
    rw [h.1, List.count_cons_self]
    exact Nat.succ_le_succ ih
  | case5 depth c text _ _ _ ih => exact ih.trans (List.count_le_count_cons ..)

/-- Without brackets there is no inside. -/
theorem outerCommas_of_flat (h : brackets list = []) : outerCommas 0 list = list.count ',' := by
  induction list with
  | nil => rfl
  | cons c list ih =>
    have hnot : ∀ x ∈ c :: list, ¬isBracket x := List.filter_eq_nil_iff.1 h
    have hlist : brackets list = [] :=
      List.filter_eq_nil_iff.2 fun x hx => hnot x (List.mem_cons_of_mem c hx)
    have hc : ¬isBracket c := hnot c List.mem_cons_self
    rw [isBracket_iff, ← isOpening_iff, not_or] at hc
    have hclosing : opening? c = none := by
      rw [Option.eq_none_iff_forall_ne_some]
      exact fun o ho => hc.2 ⟨o, opening?_eq_some_iff.1 ho⟩
    simp only [outerCommas, hc.1, hclosing, Option.isSome_none, Bool.false_eq_true, if_false,
      and_true, ih hlist]
    split_ifs with hcomma
    · rw [hcomma, List.count_cons_self]
    · rw [List.count_cons_of_ne hcomma]

theorem takeWhile_of_not_mem (h : ')' ∉ list) : list.takeWhile (· != ')') = list := by
  rw [List.takeWhile_eq_self_iff]
  intro c hc
  rw [bne_iff_ne]
  exact fun heq => h (heq ▸ hc)

theorem flatCommas_of_flat (h : brackets list = []) : flatCommas list = outerCommas 0 list := by
  have hfree : ')' ∉ list := fun hmem => List.filter_eq_nil_iff.1 h _ hmem (by decide)
  rw [flatCommas, takeWhile_of_not_mem hfree, outerCommas_of_flat h]

/-- What the scan counts behind a parenthesis, whether or not it is the one that closes the list. -/
theorem paramCount_append :
    paramCount (list ++ ')' :: rest) =
      if trim (list.takeWhile (· != ')')) = [] ∨ trim (list.takeWhile (· != ')')) = voidWord then 0
      else flatCommas list + 1 := by
  have hcut : (list ++ ')' :: rest).takeWhile (· != ')') = list.takeWhile (· != ')') := by
    induction list with
    | nil => rfl
    | cons c list ih => rw [List.cons_append, List.takeWhile_cons, List.takeWhile_cons, ih]
  have hcomma : ¬isBlank ',' := by decide
  simp [paramCount, hcut, flatCommas, count_trim hcomma]

/-- The scan counts the parameters of a list if and only if it meets as many commas as separate
    them. -/
theorem paramCount_eq_iff (h : Balanced (brackets list)) :
    paramCount (list ++ ')' :: rest) = paramsBetween list ↔
      flatCommas list = outerCommas 0 list := by
  rw [paramCount_append, paramsBetween]
  by_cases hclosing : ')' ∈ list
  · -- an inner pair of parentheses, which starts in front of the first one that closes
    have hfirst : '(' ∈ list.takeWhile (· != ')') := by
      obtain ⟨behind, hlist, -⟩ := takeWhile_append_closing hclosing
      have hcloses : Closes [] (brackets (list.takeWhile (· != ')') ++ ')' :: behind)) := hlist ▸ h
      exact (mem_of_closes (by decide) hcloses).resolve_left List.not_mem_nil
    have hmem : '(' ∈ list := (List.takeWhile_subset _) hfirst
    rw [if_neg (not_empty_of_mem hfirst), if_neg (not_empty_of_mem hmem), Nat.add_right_cancel_iff]
  · rw [flatCommas, takeWhile_of_not_mem hclosing]
    split_ifs with hempty
    · have hcount := count_of_empty hempty
      have houter := outerCommas_le_count 0 list
      omega
    · rw [Nat.add_right_cancel_iff]

/-- The scan counts two parameters or more if it meets a comma. -/
theorem paramCount_eq_succ_iff {n : Nat} :
    paramCount (list ++ ')' :: rest) = n + 2 ↔ flatCommas list = n + 1 := by
  rw [paramCount_append]
  split_ifs with hempty
  · rw [flatCommas, count_of_empty hempty, false_iff]
    omega
  · omega

/-! ### Declarations -/

variable {ws : List Written} {decls : List Declaration} {decl : Declaration}
  {Counted : List Char → Nat → Prop}

/-- What is listed at some place is written there. -/
theorem Lists.getElem? {i : Nat} (hlists : Lists Counted ws decls) (h : decls[i]? = some decl) :
    ∃ before w after blanks behind, ws = before ++ w :: after ∧ before.length = i ∧
      decl.name = String.ofList w.name ∧ w.tail = blanks ++ '(' :: behind ∧
      (∀ c ∈ blanks, isBlank c) ∧
      Counted (behind ++ after.flatMap Written.spelling) decl.params := by
  induction hlists generalizing i with
  | nil => cases h
  | @cons w ws decls blanks behind n htail hblank hcounted _ ih =>
    cases i with
    | zero =>
      obtain rfl := Option.some.inj h
      exact ⟨[], w, ws, blanks, behind, rfl, rfl, rfl, htail, hblank, hcounted⟩
    | succ i =>
      obtain ⟨before, w', after, blanks, behind, rfl, rfl, hrest⟩ := ih h
      exact ⟨w :: before, w', after, blanks, behind, rfl, rfl, hrest⟩

/-- The list of parameters of a declaration is closed by one parenthesis only. -/
theorem Written.HasParams.unique {w : Written} {after : List Written} {list' : List Char}
    (h : w.HasParams after list) (h' : w.HasParams after list') : list = list' := by
  obtain ⟨blanks, behind, rest, htail, hblank, hlist, hbalanced⟩ := h
  obtain ⟨blanks', behind', rest', htail', hblank', hlist', hbalanced'⟩ := h'
  obtain ⟨-, hbehind⟩ := span_unique (htail.symm.trans htail') hblank not_isBlank_parenthesis
    hblank' not_isBlank_parenthesis
  obtain rfl := (List.cons.inj hbehind).2
  exact list_unique (hlist.symm.trans hlist') hbalanced hbalanced'

/-- What the scan lists of a text with its pieces, each with its list of parameters. -/
theorem Decomposition.hasParams {source : String} {i : Nat} (d : Decomposition source.toList)
    (hscan : scan source = .ok decls) (h : decls[i]? = some decl) :
    ∃ before w after list rest, d.written = before ++ w :: after ∧ before.length = i ∧
      decl.name = String.ofList w.name ∧ w.HasParams after list ∧
      decl.params = paramCount (list ++ ')' :: rest) := by
  obtain ⟨hbalanced, -, -⟩ := scan_eq_ok_iff.1 hscan
  obtain ⟨decls', hscan', hlists⟩ := d.exists_scan hbalanced
  obtain rfl := Except.ok.inj (hscan.symm.trans hscan')
  obtain ⟨before, w, after, blanks, behind, hsplit, hi, hname, htail, hblank, hclosed, hparams⟩ :=
    hlists.getElem? h
  obtain ⟨list, rest, hlist, hinner⟩ := isClosedIn_parenthesis.1 hclosed
  exact ⟨before, w, after, list, rest, hsplit, hi, hname,
    ⟨blanks, behind, rest, htail, hblank, hlist, hinner⟩, hlist ▸ hparams⟩

end Source

/-! ### Kernels of programs -/

namespace Host.Program

open Source Text

/-- The vector addition can be made of the program once this is built for the device. -/
def OffersVectorAdd (program : Program) (device : Device) : Prop :=
  (program.build device).2.checkKernel vectorAddName vectorAddParams = .ok ()

variable {program : Program} {device : Device} {decls : List Declaration} {decl : Declaration}

/-- It can be made if the first declaration of its name is listed with four parameters. -/
theorem offersVectorAdd_iff (hcompiler : device.hasCompiler)
    (hscan : scan program.source = .ok decls) {i : Nat} (h : decls[i]? = some decl)
    (hname : decl.name = vectorAddName)
    (hfirst : ∀ earlier ∈ decls.take i, earlier.name ≠ vectorAddName) :
    program.OffersVectorAdd device ↔ decl.params = 4 := by
  have hfound : decls.find? (fun decl => decl.name = vectorAddName) = some decl := by
    rw [List.find?_eq_some_iff_append]
    refine ⟨by simpa using hname, decls.take i, decls.drop (i + 1), ?_, by simpa using hfirst⟩
    obtain ⟨hi, rfl⟩ := List.getElem?_eq_some_iff.1 h
    rw [List.getElem_cons_drop, List.take_append_drop]
  have hbuild : (program.build device).2 = program.record device "" (some decls) := by
    rw [build, if_pos hcompiler, hscan]
  rw [OffersVectorAdd, hbuild, checkKernel]
  by_cases hparams : decl.params = 4 <;>
    simp [record, hfound, hparams, vectorAddParams]

/-- What is recorded of a declaration of a program whose build succeeds. Its parameters are counted
    rightly if and only if as many commas stand in front of the first closing parenthesis as stand
    outside inner brackets, for instance if there are no inner brackets. If it is the first one
    called `vecadd`, the kernel can be made of it if there are three commas of the former kind. So
    where they are counted rightly, it can be made if there are four parameters. -/
theorem checkKernel_by_params (hcompiler : device.hasCompiler)
    (hscan : scan program.source = .ok decls) (d : Decomposition program.source.toList) {i : Nat}
    (h : decls[i]? = some decl) :
    ∃ before w after list, d.written = before ++ w :: after ∧ before.length = i ∧
      decl.name = String.ofList w.name ∧ w.HasParams after list ∧
      (∀ other, w.HasParams after other → other = list) ∧
      (decl.params = paramsBetween list ↔ flatCommas list = outerCommas 0 list) ∧
      (brackets list = [] → flatCommas list = outerCommas 0 list) ∧
      (decl.name = vectorAddName →
        (∀ earlier ∈ decls.take i, earlier.name ≠ vectorAddName) →
        (program.OffersVectorAdd device ↔ flatCommas list = 3) ∧
        (flatCommas list = outerCommas 0 list →
          (program.OffersVectorAdd device ↔ paramsBetween list = 4))) := by
  obtain ⟨before, w, after, list, rest, hsplit, hi, hname, hlist, hparams⟩ := d.hasParams hscan h
  have hbalanced : Balanced (brackets list) := by
    obtain ⟨_, _, _, _, _, _, hbalanced⟩ := hlist
    exact hbalanced
  have hright : decl.params = paramsBetween list ↔ flatCommas list = outerCommas 0 list := by
    rw [hparams]
    exact paramCount_eq_iff hbalanced
  refine ⟨before, w, after, list, hsplit, hi, hname, hlist, fun _ hother => hother.unique hlist,
    hright, flatCommas_of_flat, fun hvecadd hfirst => ?_⟩
  have hoffers := offersVectorAdd_iff hcompiler hscan h hvecadd hfirst
  refine ⟨?_, fun hagree => ?_⟩
  · rw [hoffers, hparams]
    exact paramCount_eq_succ_iff
  · rw [hoffers, hright.2 hagree]

/-- Four parameters, one of which is an array. The kernel can be made. -/
theorem checkKernel_by_params_of_array :
    let program : Program := ⟨"__kernel void vecadd(a[2], b, c, n)", false, [], []⟩
    let device : Device := { name := "dev", kind := .gpu }
    scan program.source = .ok [⟨"vecadd", 4⟩] ∧ program.OffersVectorAdd device ∧
      ∃ (d : Decomposition program.source.toList) (before : List Written) (w : Written)
        (after : List Written) (list : List Char),
        d.written = before ++ w :: after ∧ w.HasParams after list ∧ flatCommas list = 3 ∧
          (4 = paramsBetween list ↔ flatCommas list = outerCommas 0 list) := by
  intro program device
  have hcompiler : device.hasCompiler := rfl
  have hscan : scan program.source = .ok [⟨"vecadd", 4⟩] := by decide +kernel
  have hoffers : (program.build device).2.checkKernel vectorAddName vectorAddParams = .ok () := by
    decide +kernel
  obtain ⟨d⟩ := exists_decomposition hscan
  obtain ⟨before, w, after, list, hsplit, -, -, hlist, -, hparams, -, hmade⟩ :=
    checkKernel_by_params hcompiler hscan d (i := 0) rfl
  exact ⟨hscan, hoffers, d, before, w, after, list, hsplit, hlist,
    (hmade rfl (by simp)).1.1 hoffers, hparams⟩

/-- Four parameters, one of which has an attribute. They count as one, and no kernel can be made. -/
theorem checkKernel_of_attribute :
    let program : Program :=
      ⟨"__kernel void vecadd(a __attribute__((unused)), b, c, n)", false, [], []⟩
    let device : Device := { name := "dev", kind := .gpu }
    (∃ (d : Decomposition program.source.toList) (w : Written) (list : List Char),
      d.written = [w] ∧ String.ofList w.name = vectorAddName ∧ w.HasParams [] list ∧
        paramsBetween list = 4) ∧
      scan program.source = .ok [⟨"vecadd", 1⟩] ∧
      (program.build device).2.checkKernel vectorAddName vectorAddParams =
        .error .invalidKernelDefinition := by
  intro program device
  refine ⟨?_, by decide +kernel, by decide +kernel⟩
  let list := "a __attribute__((unused)), b, c, n".toList
  have hspace : ∀ c ∈ [' '], isBlank c := List.all_eq_true.1 rfl
  have hnone : ∀ c ∈ [], isBlank c := List.all_eq_true.1 rfl
  have hbalanced : Balanced (brackets list) :=
    bracketFault?_eq_none_iff.1 (show bracketFault? [] 1 list = none by decide +kernel)
  let w : Written :=
    ⟨[' '], [' '], "vecadd".toList, [] ++ '(' :: (list ++ [')']), hspace, hspace, by decide,
      List.all_eq_true.1 rfl, not_isNameChar_of_opens hnone, ⟨_, _, rfl, hnone⟩, by decide⟩
  let d : Decomposition program.source.toList :=
    ⟨[], [w], by decide, List.cons_ne_nil _ _, by
      simp [program, w, list, Written.spelling, keyword, voidWord]⟩
  exact ⟨d, w, list, rfl, rfl, ⟨[], _, [], rfl, hnone, by simp, hbalanced⟩, by decide +kernel⟩

end Host.Program

end Offload
