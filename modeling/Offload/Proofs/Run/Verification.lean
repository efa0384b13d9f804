import Offload.Proofs.Run.Settling

/-!
# The verdict on vectors

The check of the sums goes along the three vectors side by side, so that its verdict is as good as
their lengths are equal. The vectors that a program can get hold of come from two constructors and
then from executions of whatever kind, on whatever backend (`Vectors.Obtained`). An execution keeps
the inputs and the length of the output, or it gives all three vectors up.

The triples that the check compares are listed by `Vectors.compared`, and it ends at the first that
is wrong (`Vectors.firstDifference?`). `Vectors.Obtained.verify_exact` says what the verdict on any
sample is: it passes exactly if as many sums as it counts are right, all of which it has compared,
and it fails at the least index where the sum is wrong.
-/

namespace Offload.Vectors

/-! ### Where vectors come from -/

/-- Vectors that come from these inputs: they have been made from them, and then they have gone
    through any number of executions, each on a backend of its own. -/
inductive Obtained : Array Int32 → Array Int32 → Vectors → Prop
  | filled (size : Nat) (fillA fillB : Int32) :
      Obtained (.replicate size fillA) (.replicate size fillB) (filled size fillA fillB)
  | ofInputs {a b : Array Int32} {vectors : Vectors} : ofInputs a b = .ok vectors →
      Obtained a b vectors
  | executed {a b : Array Int32} {vectors : Vectors} {B : Backend Id} {κ : Type} [Clock Id κ]
      (resources : Resources B.handles) (kernel : B.handles.Kernel) (buffers : Buffers B.handles)
      (world : World B κ) : Obtained a b vectors →
      Obtained a b (Run.execute resources kernel buffers vectors world).1.2

theorem Kept.eq_empty {vectors : Vectors} (h : empty.Kept vectors) : vectors = .empty := by
  obtain ⟨a, b, c, hb, hc⟩ := vectors
  obtain ⟨rfl, rfl, hsize⟩ := h
  obtain rfl := Array.eq_empty_of_size_eq_zero hsize
  rfl

/-- Vectors have kept the inputs they come from, or they have been given up. -/
theorem Obtained.kept {a b : Array Int32} {vectors : Vectors} (h : Obtained a b vectors) :
    vectors.a = a ∧ vectors.b = b ∨ vectors = .empty := by
  induction h with
  | filled => exact .inl ⟨rfl, rfl⟩
  | ofInputs hok =>
    rw [Vectors.ofInputs] at hok
    split at hok
    · obtain rfl := Except.ok.inj hok
      exact .inl ⟨rfl, rfl⟩
    · exact nomatch hok
  | executed resources kernel buffers world _ ih =>
    rcases Run.execute_kept resources kernel buffers _ world with ⟨-, hleft⟩ | ⟨-, hkept⟩
    · exact .inr hleft
    · refine ih.imp (fun ⟨ha, hb⟩ => ⟨hkept.1.trans ha, hkept.2.1.trans hb⟩) ?_
      rintro rfl
      exact hkept.eq_empty

/-! ### The walk along the vectors -/

/-- The first elements of A, B and C side by side. -/
def compared (vectors : Vectors) (limit : Nat) : List (Int32 × Int32 × Int32) :=
  (vectors.a.toList.zip (vectors.b.toList.zip vectors.c.toList)).take limit

/-- The first of the triples, counted from `i` on, whose last element is not the sum of the others.
    Sums wrap around. -/
def firstDifference? : List (Int32 × Int32 × Int32) → Nat → Option Verdict
  | [], _ => none
  | (x, y, z) :: triples, i =>
    if z = x + y then firstDifference? triples (i + 1) else some (.failed i (x + y) z)

variable {vectors : Vectors} {sample : Sample}

theorem length_compared {limit : Nat} (h : limit ≤ vectors.size) :
    (vectors.compared limit).length = limit := by
  have hb := vectors.size_b
  have hc := vectors.size_c
  have hle : limit ≤ vectors.a.size := h
  simp only [compared, List.length_take, List.length_zip, Array.length_toList]
  omega

theorem getElem?_compared {limit i : Nat} {x y z : Int32} :
    (vectors.compared limit)[i]? = some (x, y, z) ↔
      i < limit ∧ vectors.a[i]? = some x ∧ vectors.b[i]? = some y ∧ vectors.c[i]? = some z := by
  simp only [compared, List.getElem?_take, Option.ite_none_right_eq_some,
    List.getElem?_zip_eq_some, Array.getElem?_toList]

theorem drop_compared {limit i : Nat} (h : i < limit) (ha : i < vectors.a.size)
    (hb : i < vectors.b.size) (hc : i < vectors.c.size) :
    (vectors.compared limit).drop i =
      (vectors.a[i], vectors.b[i], vectors.c[i]) :: (vectors.compared limit).drop (i + 1) := by
  have hentry : (vectors.compared limit)[i]? = some (vectors.a[i], vectors.b[i], vectors.c[i]) :=
    getElem?_compared.2 ⟨h, by simp, by simp, by simp⟩
  obtain ⟨hlt, hentry⟩ := List.getElem?_eq_some_iff.1 hentry
  rw [List.drop_eq_getElem_cons hlt, hentry]

/-- The check by indices is the walk along what is left to be compared. -/
theorem firstMismatch?_eq_firstDifference? (limit i : Nat) :
    vectors.firstMismatch? limit i = firstDifference? ((vectors.compared limit).drop i) i := by
  fun_induction firstMismatch? vectors limit i with
  | case1 i h hb hc expected actual heq ih =>
    rw [drop_compared h.1 h.2 hb hc, firstDifference?, if_pos heq, ih]
  | case2 i h hb hc expected actual hne =>
    rw [drop_compared h.1 h.2 hb hc, firstDifference?, if_neg hne]
  | case3 i h =>
    have hle : (vectors.compared limit).length ≤ i := by
      simp only [compared, List.length_take, List.length_zip, Array.length_toList]
      omega
    rw [List.drop_eq_nil_of_le hle, firstDifference?]

theorem verify_eq_firstDifference? :
    vectors.verify sample =
      (firstDifference? (vectors.compared (sample.count vectors.size)) 0).getD
        (.passed (sample.count vectors.size) sample.isExhaustive) := by
  rw [verify, firstMismatch?_eq_firstDifference?, List.drop_zero]

theorem firstDifference?_eq_none_iff {triples : List (Int32 × Int32 × Int32)} {i : Nat} :
    firstDifference? triples i = none ↔ ∀ triple ∈ triples, triple.2.2 = triple.1 + triple.2.1 := by
  fun_induction firstDifference? triples i with
  | case1 i => simp
  | case2 x y triples i ih => simp [ih]
  | case3 x y z triples i hne => simp [hne]

/-- What is found is the first difference: all triples before it are right. -/
theorem firstDifference?_eq_some_iff {triples : List (Int32 × Int32 × Int32)} {i : Nat}
    {verdict : Verdict} :
    firstDifference? triples i = some verdict ↔
      ∃ j x y z, triples[j]? = some (x, y, z) ∧ z ≠ x + y ∧
        (∀ k < j, ∀ triple, triples[k]? = some triple → triple.2.2 = triple.1 + triple.2.1) ∧
        verdict = .failed (i + j) (x + y) z := by
  fun_induction firstDifference? triples i with
  | case1 i => simp
  | case2 x y triples i ih =>
    rw [ih]
    constructor
    · rintro ⟨j, x', y', z', hentry, hne, hbefore, rfl⟩
      refine ⟨j + 1, x', y', z', hentry, hne, ?_, by rw [Nat.add_right_comm]; rfl⟩
      rintro (_ | k) hk triple htriple
      · obtain rfl := Option.some.inj htriple
        rfl
      · exact hbefore k (Nat.lt_of_succ_lt_succ hk) triple htriple
    · rintro ⟨_ | j, x', y', z', hentry, hne, hbefore, rfl⟩
      · obtain ⟨rfl, rfl, rfl⟩ := Option.some.inj hentry
        exact absurd rfl hne
      · refine ⟨j, x', y', z', hentry, hne, fun k hk => hbefore (k + 1) (Nat.succ_lt_succ hk), ?_⟩
        rw [Nat.add_right_comm]; rfl
  | case3 x y z triples i hne =>
    constructor
    · intro h
      obtain rfl := Option.some.inj h
      exact ⟨0, x, y, z, rfl, hne, nofun, rfl⟩
    · rintro ⟨_ | j, x', y', z', hentry, hne', hbefore, rfl⟩
      · obtain ⟨rfl, rfl, rfl⟩ := Option.some.inj hentry
        rfl
      · exact absurd (hbefore 0 (Nat.succ_pos j) (x, y, z) rfl) hne

/-! ### The verdict -/

/-- An element of C is the sum of those of A and B. The sum wraps around. -/
def SumAt (vectors : Vectors) (i : Nat) : Prop :=
  ∃ x y, vectors.a[i]? = some x ∧ vectors.b[i]? = some y ∧ vectors.c[i]? = some (x + y)

theorem sumAt_iff {limit i : Nat} {triple : Int32 × Int32 × Int32}
    (h : (vectors.compared limit)[i]? = some triple) :
    vectors.SumAt i ↔ triple.2.2 = triple.1 + triple.2.1 := by
  obtain ⟨x, y, z⟩ := triple
  obtain ⟨-, hx, hy, hz⟩ := getElem?_compared.1 h
  constructor
  · rintro ⟨x', y', hx', hy', hz'⟩
    obtain rfl := Option.some.inj (hx.symm.trans hx')
    obtain rfl := Option.some.inj (hy.symm.trans hy')
    exact Option.some.inj (hz.symm.trans hz')
  · intro h
    obtain rfl : z = x + y := h
    exact ⟨x, y, hx, hy, hz⟩

/-- The sums below a bound are right exactly if the triples compared up to there are. -/
theorem forall_sumAt_iff {limit bound : Nat} (hlimit : limit ≤ vectors.size)
    (hbound : bound ≤ limit) :
    (∀ i < bound, vectors.SumAt i) ↔
      ∀ i < bound, ∀ triple, (vectors.compared limit)[i]? = some triple →
        triple.2.2 = triple.1 + triple.2.1 := by
  refine forall₂_congr fun i hi => ⟨fun h triple htriple => (sumAt_iff htriple).1 h, fun h => ?_⟩
  have hlt : i < (vectors.compared limit).length :=
    (length_compared hlimit).symm ▸ Nat.lt_of_lt_of_le hi hbound
  have hentry := List.getElem?_eq_getElem hlt
  exact (sumAt_iff hentry).2 (h _ hentry)

theorem count_le (sample : Sample) (n : Nat) : sample.count n ≤ n := by
  cases sample with
  | leading k => exact Nat.min_le_right _ _
  | all => exact Nat.le_refl n

theorem verify_eq_passed_iff {count : Nat} {exhaustive : Bool} :
    vectors.verify sample = .passed count exhaustive ↔
      count = sample.count vectors.size ∧ exhaustive = sample.isExhaustive ∧
        ∀ i < sample.count vectors.size, vectors.SumAt i := by
  have hle := count_le sample vectors.size
  have hnone : (∀ i < sample.count vectors.size, vectors.SumAt i) ↔
      firstDifference? (vectors.compared (sample.count vectors.size)) 0 = none := by
    rw [forall_sumAt_iff hle (Nat.le_refl _), firstDifference?_eq_none_iff]
    refine ⟨fun h triple hmem => ?_, fun h i _ triple htriple =>
      h triple (List.mem_of_getElem? htriple)⟩
    obtain ⟨i, hi⟩ := List.mem_iff_getElem?.1 hmem
    exact h i (getElem?_compared.1 hi).1 triple hi
  rw [verify_eq_firstDifference?, hnone]
  cases h : firstDifference? (vectors.compared (sample.count vectors.size)) 0 with
  | none => simp [eq_comm]
  | some verdict =>
    obtain ⟨j, x, y, z, -, -, -, rfl⟩ := firstDifference?_eq_some_iff.1 h
    simp

theorem verify_eq_failed_iff {index : Nat} {expected actual : Int32} :
    vectors.verify sample = .failed index expected actual ↔
      index < sample.count vectors.size ∧ (∀ i < index, vectors.SumAt i) ∧
        ∃ x y, vectors.a[index]? = some x ∧ vectors.b[index]? = some y ∧
          vectors.c[index]? = some actual ∧ expected = x + y ∧ actual ≠ expected := by
  have hle := count_le sample vectors.size
  have hsome : vectors.verify sample = .failed index expected actual ↔
      firstDifference? (vectors.compared (sample.count vectors.size)) 0 =
        some (.failed index expected actual) := by
    rw [verify_eq_firstDifference?]
    cases firstDifference? (vectors.compared (sample.count vectors.size)) 0 <;> simp
  rw [hsome, firstDifference?_eq_some_iff]
  constructor
  · rintro ⟨j, x, y, z, hentry, hne, hbefore, heq⟩
    rw [Nat.zero_add] at heq
    obtain ⟨rfl, rfl, rfl⟩ := Verdict.failed.inj heq
    obtain ⟨hlt, hx, hy, hz⟩ := getElem?_compared.1 hentry
    exact ⟨hlt, (forall_sumAt_iff hle (Nat.le_of_lt hlt)).2 hbefore, x, y, hx, hy, hz, rfl, hne⟩
  · rintro ⟨hlt, hbefore, x, y, hx, hy, hz, rfl, hne⟩
    exact ⟨index, x, y, actual, getElem?_compared.2 ⟨hlt, hx, hy, hz⟩, hne,
      (forall_sumAt_iff hle (Nat.le_of_lt hlt)).1 hbefore, by rw [Nat.zero_add]⟩

theorem isPassed_verify_iff :
    (vectors.verify sample).isPassed = true ↔
      ∀ i < sample.count vectors.size, vectors.SumAt i := by
  cases h : vectors.verify sample with
  | passed count exhaustive =>
    obtain ⟨-, -, hall⟩ := verify_eq_passed_iff.1 h
    exact iff_of_true rfl hall
  | failed index expected actual =>
    obtain ⟨hlt, -, x, y, hx, hy, hz, rfl, hne⟩ := verify_eq_failed_iff.1 h
    have hentry := getElem?_compared.2 ⟨hlt, hx, hy, hz⟩
    exact iff_of_false Bool.false_ne_true fun hall => hne ((sumAt_iff hentry).1 (hall index hlt))

theorem isExhaustive_eq_iff {exhaustive : Bool} :
    exhaustive = sample.isExhaustive ↔ (exhaustive = true ↔ sample = .all) := by
  cases sample <;> cases exhaustive <;> simp [Sample.isExhaustive]

/-- Vectors that a program can get hold of are of one length, that of the inputs that they come from
    unless they have been given up. Whatever the sample, the check compares as many elements as the
    sample has. It passes exactly if all of these are right, and it fails exactly at the least index
    where one is wrong, with the sum that was expected and the element that is there. A sample that
    passes leaves nothing to find for one that is no larger. -/
theorem Obtained.verify_exact {a b : Array Int32} (h : Obtained a b vectors) :
    (vectors.a = a ∧ vectors.b = b ∨ vectors = .empty) ∧
    vectors.a.size = vectors.size ∧ vectors.b.size = vectors.size ∧
    vectors.c.size = vectors.size ∧
    ∀ sample : Sample,
      let checked := match sample with
        | .leading k => min k.toNat vectors.size
        | .all => vectors.size
      (vectors.compared checked).length = checked ∧
      vectors.verify sample = (firstDifference? (vectors.compared checked) 0).getD
        (.passed checked sample.isExhaustive) ∧
      (∀ count exhaustive, vectors.verify sample = .passed count exhaustive ↔
        count = checked ∧ (exhaustive = true ↔ sample = .all) ∧
          ∀ i < checked, vectors.SumAt i) ∧
      (∀ index expected actual, vectors.verify sample = .failed index expected actual ↔
        index < checked ∧ (∀ i < index, vectors.SumAt i) ∧
          ∃ x y, vectors.a[index]? = some x ∧ vectors.b[index]? = some y ∧
            vectors.c[index]? = some actual ∧ expected = x + y ∧ actual ≠ expected) ∧
      ∀ smaller : Sample, smaller.count vectors.size ≤ checked →
        (vectors.verify sample).isPassed = true → (vectors.verify smaller).isPassed = true := by
  refine ⟨h.kept, rfl, vectors.size_b, vectors.size_c, fun sample => ?_⟩
  intro checked
  have hchecked : checked = sample.count vectors.size := by cases sample <;> rfl
  rw [hchecked]
  refine ⟨length_compared (count_le sample _), verify_eq_firstDifference?, ?_, ?_, ?_⟩
  · intro count exhaustive
    rw [verify_eq_passed_iff, isExhaustive_eq_iff]
  · exact fun index expected actual => verify_eq_failed_iff
  · intro smaller hle hpassed
    have hall := isPassed_verify_iff.1 hpassed
    exact isPassed_verify_iff.2 fun i hi => hall i (Nat.lt_of_lt_of_le hi hle)

/-- The download of the sums 4 and 6 has brought 7 in the second place: one element passes, and all
    of them do not. -/
theorem Obtained.verify_exact_of_poke :
    let script : Script := { pokes := [⟨0, #[4, 7]⟩] }
    let start : World (script.backend Id Readings) Readings :=
      { backend := { host := .initial (.ofFunction fun _ => 0) }, clock := .ofFunction fun _ => 0 }
    let prepared := (Run.prepare Run.Leftover.device "__kernel void vecadd(a, b, c, n)" "vecadd"
      2).run start
    let vectors : Vectors := ⟨#[1, 2], #[3, 4], #[0, 0], rfl, rfl⟩
    let left := (Run.execute (B := script.backend Id Readings) Run.Leftover.resources
      Run.Leftover.kernel Run.Leftover.buffers vectors prepared.2).1.2
    Obtained #[1, 2] #[3, 4] left ∧ left.verify .all = .failed 1 6 7 ∧
      (left.verify (.leading 1)).isPassed = true := by
  intro script start prepared vectors left
  have hobtained : Obtained #[1, 2] #[3, 4] left := .executed _ _ _ _ (.ofInputs rfl)
  have ha : left.a = #[1, 2] := by decide +kernel
  have hb : left.b = #[3, 4] := by decide +kernel
  have hc : left.c = #[4, 7] := by decide +kernel
  obtain ⟨-, -, -, -, hverify⟩ := hobtained.verify_exact
  obtain ⟨-, -, -, hfailed, -⟩ := hverify .all
  have hfirst : left.SumAt 0 := ⟨1, 3, by rw [ha]; rfl, by rw [hb]; rfl, by rw [hc]; rfl⟩
  have hsize : left.size = 2 := congrArg Array.size ha
  refine ⟨hobtained, (hfailed 1 6 7).2 ⟨?_, ?_, 2, 4, ?_, ?_, ?_, by decide, by decide⟩, ?_⟩
  · simp [hsize]
  · intro i hi
    obtain rfl := Nat.lt_one_iff.1 hi
    exact hfirst
  · rw [ha]; rfl
  · rw [hb]; rfl
  · rw [hc]; rfl
  · obtain ⟨-, -, hpassed, -, -⟩ := hverify (.leading 1)
    rw [(hpassed 1 false).2]
    · rfl
    refine ⟨by simp [hsize], by simp, fun i hi => ?_⟩
    obtain rfl : i = 0 := by simpa [hsize] using hi
    exact hfirst

end Offload.Vectors
