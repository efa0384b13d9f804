import Mathlib.Algebra.Group.Nat.Defs
import Offload.Proofs.Host.Execution

/-!
# The vector addition on bytes

Device memory is bytes, four for each element, and a kernel is dispatched over all its work items,
each of which compares its own number with the element count, as signed words. This is
`VectorAdd.dispatch`. `VectorAdd.run` knows elements only and does not look at items above the
count; it leaves the same (`VectorAdd.dispatch_bytes`), whatever the order of the bytes in an
element. That a number is taken for a signed word does no harm as long as there are no more than
`2 ^ 63` items.

`Queue.execute_kernel` says what a kernel that runs does to the memory of a store, where A, B and C
may be any buffers, all the same one among them.
-/

namespace Offload.Host

/-! ### Elements and their bytes -/

/-- A way to keep elements in four bytes each. -/
structure Encoding where
  /-- The bytes of an element. -/
  encode : Int32 → List UInt8
  /-- The element in four bytes. -/
  decode : List UInt8 → Int32
  length_encode : ∀ x, (encode x).length = 4
  decode_encode : ∀ x, decode (encode x) = x

namespace Encoding

/-- The byte of least weight comes first. -/
def littleEndian : Encoding where
  encode := elementBytes
  decode := ofElementBytes
  length_encode _ := rfl
  decode_encode := ofElementBytes_elementBytes

/-- The bytes of some elements. -/
def bytes (e : Encoding) (elements : List Int32) : List UInt8 :=
  elements.flatMap e.encode

/-- The elements in some bytes, without the bytes left over at the end. -/
def elements (e : Encoding) : List UInt8 → List Int32
  | b₀ :: b₁ :: b₂ :: b₃ :: rest => e.decode [b₀, b₁, b₂, b₃] :: e.elements rest
  | _ => []

variable (e : Encoding) (memory : List Int32) {i : Nat}

theorem length_bytes : (e.bytes memory).length = 4 * memory.length := by
  induction memory with
  | nil => rfl
  | cons x memory ih =>
    rw [bytes, List.flatMap_cons, List.length_append, e.length_encode, ← bytes, ih,
      List.length_cons]
    omega

theorem elements_bytes : e.elements (e.bytes memory) = memory := by
  induction memory with
  | nil => rfl
  | cons x memory ih =>
    obtain ⟨b₀, b₁, b₂, b₃, hx⟩ : ∃ b₀ b₁ b₂ b₃, e.encode x = [b₀, b₁, b₂, b₃] := by
      have hlength := e.length_encode x
      match he : e.encode x with
      | [b₀, b₁, b₂, b₃] => exact ⟨b₀, b₁, b₂, b₃, rfl⟩
      | [] | [_] | [_, _] | [_, _, _] | _ :: _ :: _ :: _ :: _ :: _ => simp [he] at hlength
    rw [bytes, List.flatMap_cons, ← bytes, hx]
    simp only [List.cons_append, List.nil_append, elements, ih]
    rw [← hx, e.decode_encode]

/-- An element is replaced by way of its bytes. -/
theorem bytes_set (hi : i < memory.length) (x : Int32) :
    (e.bytes memory).take (4 * i) ++ e.encode x ++ (e.bytes memory).drop (4 * i + 4) =
      e.bytes (memory.set i x) := by
  induction memory generalizing i with
  | nil => cases hi
  | cons y memory ih =>
    have hy := e.length_encode y
    rw [bytes, List.flatMap_cons, ← bytes]
    cases i with
    | zero =>
      rw [Nat.mul_zero, List.take_zero, Nat.zero_add, List.drop_left' hy]
      rfl
    | succ i =>
      have hstart : 4 * (i + 1) = (e.encode y).length + 4 * i := by omega
      have hend : 4 * (i + 1) + 4 = (e.encode y).length + (4 * i + 4) := by omega
      rw [hend, hstart, List.take_length_add_append, List.drop_length_add_append,
        List.append_assoc, List.append_assoc, ← List.append_assoc (List.take _ _),
        ih (Nat.lt_of_succ_lt_succ hi)]
      rfl

end Encoding

/-! ### Work items -/

namespace VectorAdd

/-- Runs work items one after the other on the bytes of C, given the elements of A and B from before
    the kernel. -/
def dispatch (e : Encoding) (a b : List Int32) (count : Int32) :
    List Nat → List UInt8 → List UInt8 × Option Status
  | [], out => (out, none)
  | item :: items, out =>
    if Int64.ofNat item < count.toInt64 then
      match a[item]?, b[item]? with
      | some x, some y =>
        if 4 * item + 4 ≤ out.length then
          dispatch e a b count items
            (out.take (4 * item) ++ e.encode (x + y) ++ out.drop (4 * item + 4))
        else (out, some .outOfResources)
      | _, _ => (out, some .outOfResources)
    else dispatch e a b count items out

variable {a b c : Array Int32} {size : UInt64} {count : Int32} {e : Encoding} {i item : Nat}

/-- The guard of a work item, without words. -/
theorem guard_iff (h : item < 2 ^ 63) :
    Int64.ofNat item < count.toInt64 ↔ item < count.toNatClampNeg := by
  rw [Int64.lt_iff_toInt_lt, Int64.toInt_ofNat_of_lt h, Int32.toInt_toInt64, Int32.toNatClampNeg]
  omega

/-- Items above the count do nothing. -/
theorem dispatch_of_le {a b : List Int32} {items : List Nat} {out : List UInt8}
    (h : ∀ item ∈ items, ¬Int64.ofNat item < count.toInt64) :
    dispatch e a b count items out = (out, none) := by
  induction items with
  | nil => rfl
  | cons item items ih =>
    rw [dispatch, if_neg (h item List.mem_cons_self),
      ih fun other hother => h other (List.mem_cons_of_mem item hother)]

/-- From some item on, the dispatch does to the bytes what the kernel does to the elements. -/
theorem dispatch_runItems (hsize : size.toNat ≤ 2 ^ 63) (hi : i ≤ size.toNat) :
    dispatch e a.toList b.toList count (List.range' i (size.toNat - i)) (e.bytes c.toList) =
      (e.bytes (runItems a b (activeItems size count) i c).1.toList,
        (runItems a b (activeItems size count) i c).2) := by
  have hnext {i : Nat} (hlt : i < size.toNat) :
      List.range' i (size.toNat - i) = i :: List.range' (i + 1) (size.toNat - (i + 1)) := by
    rw [show size.toNat - i = size.toNat - (i + 1) + 1 by omega, List.range'_succ]
  have hguard {i : Nat} (hactive : i < activeItems size count) :
      i < size.toNat ∧ Int64.ofNat i < count.toInt64 := by
    rw [activeItems] at hactive
    exact ⟨by omega, (guard_iff (by omega)).2 (by omega)⟩
  fun_induction runItems a b (activeItems size count) i c with
  | case1 i c hactive x y hy hx hc ih =>
    obtain ⟨hlt, hbelow⟩ := hguard hactive
    have hslot : 4 * i + 4 ≤ (e.bytes c.toList).length := by
      rw [e.length_bytes, Array.length_toList]
      omega
    rw [hnext hlt, dispatch, if_pos hbelow]
    simp only [Array.getElem?_toList, hx, hy, if_pos hslot]
    rw [e.bytes_set c.toList hc, ← Array.toList_set c i (x + y) hc, ih hlt]
  | case2 i c hactive x y hy hx hc =>
    obtain ⟨hlt, hbelow⟩ := hguard hactive
    have hslot : ¬4 * i + 4 ≤ (e.bytes c.toList).length := by
      rw [e.length_bytes, Array.length_toList]
      omega
    rw [hnext hlt, dispatch, if_pos hbelow]
    simp only [Array.getElem?_toList, hx, hy, if_neg hslot]
  | case3 i c hactive hnone =>
    obtain ⟨hlt, hbelow⟩ := hguard hactive
    rw [hnext hlt, dispatch, if_pos hbelow]
    split
    · rename_i x y hx hy
      rw [Array.getElem?_toList] at hx hy
      exact (hnone x y hx hy).elim
    · rfl
  | case4 i c hactive =>
    rw [activeItems] at hactive
    refine dispatch_of_le fun item hitem => ?_
    obtain ⟨hle, hlt⟩ := List.mem_range'_1.1 hitem
    rw [guard_iff (by omega)]
    omega

/-- The dispatch of all items does to the bytes what the kernel does to the elements. -/
theorem dispatch_bytes (hsize : size.toNat ≤ 2 ^ 63) :
    dispatch e (e.elements (e.bytes a.toList)) (e.elements (e.bytes b.toList)) count
        (List.range size.toNat) (e.bytes c.toList) =
      (e.bytes (run a b c size count).1.toList, (run a b c size count).2) := by
  rw [e.elements_bytes, e.elements_bytes, List.range_eq_range']
  exact dispatch_runItems hsize (Nat.zero_le _)

end VectorAdd

/-! ### Kernels that run -/

open Function

variable {κ : Type} {store after : Store κ} {command : Command} {failure : Option Status}
  {size : UInt64} {args : Arguments}

/-- A kernel that runs changes its output only, by what the vector addition leaves there. -/
theorem Executed.kernel (h : Executed store command failure after)
    (hoperation : command.operation = .kernel size args.vector)
    (hwait : ¬command.wait.any store.hasFailed) :
    after.memory = update store.memory args.c
        (VectorAdd.run (store.memory args.a) (store.memory args.b) (store.memory args.c) size
          args.count).1 ∧
      failure = (VectorAdd.run (store.memory args.a) (store.memory args.b) (store.memory args.c)
        size args.count).2 := by
  have hspoils : ¬store.ledger.spoils command := by
    simpa only [Ledger.spoils, ← Store.hasFailed_eq] using hwait
  constructor
  · have hmemory : after.memory = (store.ledger.run command).memory :=
      congrArg Ledger.memory h.ledger
    rw [hmemory, Ledger.run, if_neg hspoils, hoperation, Operation.perform_kernel]
    rfl
  · rw [h.failure, h.ledger, Ledger.failure?, Ledger.outcome_run_self, if_neg hspoils, hoperation,
      Operation.perform_kernel]
    dsimp only [Store.ledger]
    cases (VectorAdd.run (store.memory args.a) (store.memory args.b) (store.memory args.c) size
      args.count).2 <;> rfl

/-- What a kernel that runs does. It has `m` active work items, of which the first `k` find all
    their elements. These leave wrapping sums of what A and B held before, also where C is one of
    them, and nothing else changes. The kernel succeeds if and only if these are all active items.
    Dispatched over bytes, it does the same. -/
theorem Queue.execute_kernel [Clock Id κ] (queue : Queue)
    (hoperation : command.operation = .kernel size args.vector)
    (hwait : ¬command.wait.any store.hasFailed) (hevent : command.event < store.events.size)
    (h : queue.execute (m := Id) command store = (failure, after)) :
    let m := min size.toNat (max args.count.toInt 0).toNat
    let k := min m (min (store.memory args.a).size
      (min (store.memory args.b).size (store.memory args.c).size))
    (∀ i < k, ∃ x y z, (store.memory args.a)[i]? = some x ∧ (store.memory args.b)[i]? = some y ∧
        (after.memory args.c)[i]? = some z ∧ z.toInt = (x.toInt + y.toInt).bmod (2 ^ 32)) ∧
      (∀ i, k ≤ i → (after.memory args.c)[i]? = (store.memory args.c)[i]?) ∧
      (∀ buffer, buffer ≠ args.c → after.memory buffer = store.memory buffer) ∧
      failure = (if k = m then none else some .outOfResources) ∧
      (size.toNat ≤ 2 ^ 63 → ∀ e : Encoding,
        VectorAdd.dispatch e (e.elements (e.bytes (store.memory args.a).toList))
            (e.elements (e.bytes (store.memory args.b).toList)) args.count
            (List.range size.toNat) (e.bytes (store.memory args.c).toList) =
          (e.bytes (after.memory args.c).toList, failure)) := by
  obtain ⟨hmemory, hfailure⟩ := (Queue.execute_spec queue hevent h).kernel hoperation hwait
  intro m k
  have hm : m = VectorAdd.activeItems size args.count := by
    simp only [m, VectorAdd.activeItems, Int32.toNatClampNeg]
    omega
  have hk : k = VectorAdd.covered (store.memory args.a) (store.memory args.b)
      (store.memory args.c) (VectorAdd.activeItems size args.count) := by
    simp only [k, hm, VectorAdd.covered]
  have houtput := congrFun hmemory args.c
  rw [update_self] at houtput
  refine ⟨fun i hi => ?_, fun i hi => ?_, fun buffer hne => ?_, ?_, fun hsize e => ?_⟩
  · have ha : i < (store.memory args.a).size := by omega
    have hb : i < (store.memory args.b).size := by omega
    refine ⟨_, _, _, Array.getElem?_eq_getElem ha, Array.getElem?_eq_getElem hb, ?_,
      Int32.toInt_add _ _⟩
    rw [houtput]
    exact VectorAdd.getElem?_run_of_lt (hk ▸ hi) (Array.getElem?_eq_getElem ha)
      (Array.getElem?_eq_getElem hb)
  · rw [houtput]
    exact VectorAdd.getElem?_run_of_le (hk ▸ hi)
  · rw [hmemory, update_of_ne hne]
  · rw [hfailure, VectorAdd.run_failure, hk, hm]
  · rw [houtput, hfailure]
    exact VectorAdd.dispatch_bytes hsize

/-- A kernel whose output is its first input, with a sum that wraps around and more work items than
    the second input has elements. -/
theorem Queue.execute_kernel_of_alias :
    let store : Store Readings :=
      { clock := .ofFunction fun _ => 0
        buffers := #[⟨.input, #[2147483647, 5, 7]⟩, ⟨.input, #[1, 6]⟩]
        events := #[{ command := .kernel, profiling := true }] }
    let command : Command := ⟨.kernel 4 (Arguments.mk 0 1 0 3).vector, [], 0⟩
    let queue : Queue := { order := .inOrder, profiling := true, backwardsClock := false }
    let result := queue.execute (m := Id) command store
    result.1 = some .outOfResources ∧ result.2.memory 0 = #[-2147483648, 11, 7] ∧
      result.2.memory 1 = store.memory 1 ∧
      VectorAdd.dispatch .littleEndian
          (Encoding.littleEndian.elements (Encoding.littleEndian.bytes [2147483647, 5, 7]))
          (Encoding.littleEndian.elements (Encoding.littleEndian.bytes [1, 6])) 3 (List.range 4)
          (Encoding.littleEndian.bytes [2147483647, 5, 7]) =
        ([0, 0, 0, 128, 11, 0, 0, 0, 7, 0, 0, 0], some .outOfResources) := by
  intro store command queue result
  have hevent : command.event < store.events.size := by decide
  have hexecute : queue.execute (m := Id) command store = (result.1, result.2) := rfl
  have hmemory : result.2.memory 0 = #[-2147483648, 11, 7] := by decide +kernel
  obtain ⟨-, -, hothers, hfailure, hdispatch⟩ :=
    Queue.execute_kernel queue rfl (by decide) hevent hexecute
  have hbytes : Encoding.littleEndian.bytes (result.2.memory 0).toList =
      [0, 0, 0, 128, 11, 0, 0, 0, 7, 0, 0, 0] := by
    rw [hmemory]
    decide +kernel
  exact ⟨hfailure, hmemory, hothers 1 (by decide),
    (hdispatch (by decide) .littleEndian).trans (by rw [hbytes, hfailure]; decide +kernel)⟩

end Offload.Host
