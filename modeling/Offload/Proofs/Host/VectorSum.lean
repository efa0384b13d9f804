import Offload.Host.VectorAdd

/-!
# The vector addition, item by item

The kernel stops at the first work item that finds an element missing. So it covers the items up to
the least of its limit and the lengths of the three buffers (`VectorAdd.covered`): those elements of
C are sums (`getElem?_run_of_lt`), all others are as before (`getElem?_run_of_le`), and the kernel
fails exactly if it covers less than its limit (`run_failure`).
-/

namespace Offload.Host.VectorAdd

variable {a b c : Array Int32} {limit i j : Nat} {x y : Int32}

/-- How many work items below a limit find all their elements. -/
def covered (a b c : Array Int32) (limit : Nat) : Nat :=
  min limit (min a.size (min b.size c.size))

theorem size_runItems : (runItems a b limit i c).1.size = c.size := by
  fun_induction runItems a b limit i c with
  | case1 i c _ x y _ _ hc ih => rw [ih, Array.size_set]
  | case2 | case3 | case4 => rfl

/-- Elements that the items from `i` on do not cover stay as they are. -/
theorem getElem?_runItems_of_le (h : j < i ∨ covered a b c limit ≤ j) :
    (runItems a b limit i c).1[j]? = (c)[j]? := by
  fun_induction runItems a b limit i c with
  | case1 i c hi x y hy hx hc ih =>
    obtain ⟨ha, -⟩ := Array.getElem?_eq_some_iff.1 hx
    obtain ⟨hb, -⟩ := Array.getElem?_eq_some_iff.1 hy
    -- this item is covered, so the element looked at is another one
    have hj : i ≠ j := by
      rintro rfl
      simp only [covered] at h
      omega
    rw [ih (h.imp (by omega) (by simp [covered])), Array.getElem?_set_ne hc hj]
  | case2 | case3 | case4 => rfl

/-- The items from `i` on leave sums in the elements that they cover. -/
theorem getElem?_runItems_of_lt (hi : i ≤ j) (hj : j < covered a b c limit)
    (hx : a[j]? = some x) (hy : b[j]? = some y) :
    (runItems a b limit i c).1[j]? = some (x + y) := by
  fun_induction runItems a b limit i c with
  | case1 i c _ x' y' hy' hx' hc ih =>
    rcases Nat.eq_or_lt_of_le hi with rfl | hlt
    · rw [getElem?_runItems_of_le (.inl (Nat.lt_succ_self i)), Array.getElem?_set_self hc,
        Option.some.inj (hx.symm.trans hx'), Option.some.inj (hy.symm.trans hy')]
    · exact ih hlt (by simpa [covered] using hj)
  | case2 i c _ _ _ _ _ hc =>
    simp only [covered] at hj
    omega
  | case3 i c _ hnone =>
    -- an input is too short for this item, although a later one is covered
    simp only [covered] at hj
    exact absurd (Array.getElem?_eq_getElem (by omega)) fun hb =>
      hnone _ _ (Array.getElem?_eq_getElem (by omega)) hb
  | case4 i c hlimit =>
    simp only [covered] at hj
    omega

theorem runItems_failure :
    (runItems a b limit i c).2 =
      if limit ≤ max i (covered a b c limit) then none else some .outOfResources := by
  fun_induction runItems a b limit i c with
  | case1 i c hi x y hy hx hc ih =>
    obtain ⟨ha, -⟩ := Array.getElem?_eq_some_iff.1 hx
    obtain ⟨hb, -⟩ := Array.getElem?_eq_some_iff.1 hy
    have hmax : max (i + 1) (covered a b (c.set i (x + y)) limit) =
        max i (covered a b c limit) := by
      simp only [covered, Array.size_set]
      omega
    rw [ih, hmax]
  | case2 i c _ _ _ _ _ hc =>
    rw [if_neg]
    simp only [covered]
    omega
  | case3 i c _ hnone =>
    rw [if_neg]
    intro hle
    simp only [covered] at hle
    exact hnone _ _ (Array.getElem?_eq_getElem (by omega)) (Array.getElem?_eq_getElem (by omega))
  | case4 i c hlimit => rw [if_pos (by omega)]

/-! ### Whole kernels -/

variable {size : UInt64} {count : Int32}

/-- All work items are active if the count given to the kernel is their number. -/
theorem activeItems_ofNat (h : size.toNat ≤ 2147483647) :
    activeItems size (Int32.ofNat size.toNat) = size.toNat := by
  rw [activeItems, Int32.toNatClampNeg_ofNat_of_lt (Nat.lt_succ_of_le h), Nat.min_self]

theorem size_run : (run a b c size count).1.size = c.size := size_runItems

/-- A kernel leaves sums in the elements of C that it covers. -/
theorem getElem?_run_of_lt (hj : j < covered a b c (activeItems size count))
    (hx : a[j]? = some x) (hy : b[j]? = some y) :
    (run a b c size count).1[j]? = some (x + y) :=
  getElem?_runItems_of_lt (Nat.zero_le j) hj hx hy

/-- A kernel leaves all other elements of C as they are. -/
theorem getElem?_run_of_le (hj : covered a b c (activeItems size count) ≤ j) :
    (run a b c size count).1[j]? = (c)[j]? :=
  getElem?_runItems_of_le (.inr hj)

/-- A kernel fails, for want of elements, unless it covers all its active items. -/
theorem run_failure :
    (run a b c size count).2 =
      if covered a b c (activeItems size count) = activeItems size count then none
      else some .outOfResources := by
  rw [run, runItems_failure]
  congr 1
  simp only [covered, eq_iff_iff]
  omega

theorem covered_of_run (h : (run a b c size count).2 = none) :
    covered a b c (activeItems size count) = activeItems size count := by
  rw [run_failure] at h
  split at h
  · assumption
  · exact nomatch h

end Offload.Host.VectorAdd
