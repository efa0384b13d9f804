import Offload.Proofs.Host.Footprints
import Offload.Proofs.Host.WorkItems
import Offload.Proofs.Run.Refusals

/-!
# Allocations

The buffers of a session are those that it was asked for and that it made, in this order
(`State.holds_serve_fresh`), and each was checked when it was made: its bytes can be counted in a
word, and its device allows as many (`Allocation.Fits`). Nothing else of the backend checks its
arithmetic. What is computed later with the size of a buffer, or with the number of an element in
it, stays within the bounds of that one check.

For a dispatch this takes an argument. `VectorAdd.checkedDispatch` forms the bounds of each element
in words and comes to nothing where one of these overflows. It never does, for any number of work
items (`VectorAdd.checkedDispatch_eq`): bounds are formed only for items that have found their
elements in A and B, so these are among the elements that an allocation has been checked for.
-/

namespace Offload.Host

/-! ### Bounds in words -/

/-- The product of two words, unless it overflows. -/
def checkedMul? (x y : UInt64) : Option UInt64 :=
  if x.toNat * y.toNat < UInt64.size then some (x * y) else none

/-- The sum of two words, unless it overflows. -/
def checkedAdd? (x y : UInt64) : Option UInt64 :=
  if x.toNat + y.toNat < UInt64.size then some (x + y) else none

theorem checkedMul?_eq {x y : UInt64} {n : Nat} (h : x.toNat * y.toNat = n)
    (hn : n < UInt64.size) : ∃ z, checkedMul? x y = some z ∧ z.toNat = n := by
  subst h
  exact ⟨x * y, if_pos hn, (UInt64.toNat_mul x y).trans (Nat.mod_eq_of_lt hn)⟩

theorem checkedAdd?_eq {x y : UInt64} {n : Nat} (h : x.toNat + y.toNat = n)
    (hn : n < UInt64.size) : ∃ z, checkedAdd? x y = some z ∧ z.toNat = n := by
  subst h
  exact ⟨x + y, if_pos hn, (UInt64.toNat_add x y).trans (Nat.mod_eq_of_lt hn)⟩

namespace VectorAdd

/-- The bytes of an element, from the first one to the one after the last, unless something
    overflows on the way. -/
def slot? (item : UInt64) : Option (UInt64 × UInt64) := do
  let start ← checkedMul? item 4
  let next ← checkedAdd? item 1
  let stop ← checkedMul? next 4
  return (start, stop)

/-- Runs work items as `dispatch` does, on words. There is no result if the bounds of an element
    overflow. -/
def checkedDispatch (e : Encoding) (a b : List Int32) (count : Int32) :
    List UInt64 → List UInt8 → Option (List UInt8 × Option Status)
  | [], out => some (out, none)
  | item :: items, out =>
    -- from item 2 ^ 63 on this compares a negative number, but then there is no such element
    if item.toInt64 < count.toInt64 then
      match a[item.toNat]?, b[item.toNat]? with
      | some x, some y => do
        let (start, stop) ← slot? item
        if stop.toNat ≤ out.length then
          checkedDispatch e a b count items
            (out.take start.toNat ++ e.encode (x + y) ++ out.drop stop.toNat)
        else return (out, some .outOfResources)
      | _, _ => some (out, some .outOfResources)
    else checkedDispatch e a b count items out

/-- All work items of a dispatch. -/
def items (size : UInt64) : List UInt64 :=
  (List.range size.toNat).map UInt64.ofNat

theorem toNat_items (size : UInt64) : (items size).map UInt64.toNat = List.range size.toNat := by
  rw [items, List.map_map]
  have hitem : ∀ item ∈ List.range size.toNat, (UInt64.toNat ∘ UInt64.ofNat) item = id item :=
    fun item hitem =>
      UInt64.toNat_ofNat_of_lt' (Nat.lt_trans (List.mem_range.1 hitem) size.toNat_lt)
  rw [List.map_congr_left hitem, List.map_id]

theorem slot?_eq {item : UInt64} (h : 4 * (item.toNat + 1) < UInt64.size) :
    ∃ start stop, slot? item = some (start, stop) ∧ start.toNat = 4 * item.toNat ∧
      stop.toNat = 4 * item.toNat + 4 := by
  obtain ⟨start, hstart, hfirst⟩ :=
    checkedMul?_eq (y := 4) (Nat.mul_comm item.toNat 4) (by omega)
  have hone : item.toNat + (1 : UInt64).toNat = item.toNat + 1 := rfl
  obtain ⟨next, hnext, hsum⟩ := checkedAdd?_eq hone (by omega)
  obtain ⟨stop, hstop, hend⟩ := checkedMul?_eq (y := 4) (Nat.mul_comm next.toNat 4) (by omega)
  exact ⟨start, stop, by simp [slot?, hstart, hnext, hstop], hfirst, by omega⟩

/-- An element may be so far out that its first byte has a number and the end of it has none. -/
example : slot? 0x3fffffffffffffff = none := by decide

/-- As long as the bytes of A can be counted in a word, no bounds overflow, whatever the work
    items. -/
theorem checkedDispatch_eq (e : Encoding) {a b : List Int32} (h : 4 * a.length < UInt64.size)
    (count : Int32) (items : List UInt64) (out : List UInt8) :
    checkedDispatch e a b count items out =
      some (dispatch e a b count (items.map UInt64.toNat) out) := by
  induction items generalizing out with
  | nil => rfl
  | cons item items ih =>
    have hsigned : item.toInt64 = Int64.ofNat item.toNat := by
      rw [← UInt64.toInt64_ofNat', UInt64.ofNat_toNat]
    rw [checkedDispatch, List.map_cons, dispatch, hsigned]
    by_cases hguard : Int64.ofNat item.toNat < count.toInt64
    · rw [if_pos hguard, if_pos hguard]
      cases hx : a[item.toNat]? with
      | none => rfl
      | some x =>
        cases hy : b[item.toNat]? with
        | none => rfl
        | some y =>
          obtain ⟨hlt, -⟩ := List.getElem?_eq_some_iff.1 hx
          have hcountable : 4 * (item.toNat + 1) < UInt64.size := by omega
          obtain ⟨start, stop, hslot, hstart, hstop⟩ := slot?_eq hcountable
          simp only [hslot, hstart, hstop, Option.bind_eq_bind, Option.bind_some]
          split
          · exact ih _
          · rfl
    · rw [if_neg hguard, if_neg hguard]
      exact ih out

end VectorAdd

/-! ### Allocations on record -/

/-- A buffer as it was asked for. -/
structure Allocation where
  /-- The device of the context. -/
  device : Device
  /-- The hints. -/
  access : Access
  /-- The number of elements. -/
  size : UInt64

namespace Allocation

/-- The check of an allocation. -/
structure Fits (allocation : Allocation) : Prop where
  countable : 4 * allocation.size.toNat < UInt64.size
  allowed : ∀ limit, allocation.device.maxAllocBytes = some limit →
    4 * allocation.size.toNat ≤ limit.toNat

/-- What a store shows of the buffer. -/
def shape (allocation : Allocation) : Access × Nat :=
  (allocation.access, allocation.size.toNat)

theorem allows_iff {allocation : Allocation} :
    State.allows allocation.device allocation.size ↔ allocation.Fits := by
  rw [Run.allows_eq, Run.oversized, Bool.not_eq_true', Bool.or_eq_false_iff,
    decide_eq_false_iff_not, Nat.not_le]
  constructor
  · rintro ⟨hcountable, hallowed⟩
    refine ⟨hcountable, fun limit hlimit => ?_⟩
    simpa [hlimit] using hallowed
  · intro h
    refine ⟨h.countable, ?_⟩
    cases hlimit : allocation.device.maxAllocBytes with
    | none => rfl
    | some limit => simpa using h.allowed limit hlimit

end Allocation

/-- The buffer that a call on record has made, if this is what it did. -/
def allocationOf? : Exchange handles → Option Allocation
  | ⟨.createBuffer context _ access size, .ok _⟩ => some ⟨context.device, access, size⟩
  | _ => none

/-- The buffers made on record, in order. -/
def allocations (record : List (Exchange handles)) : List Allocation :=
  record.filterMap allocationOf?

namespace State

variable {κ : Type} {state : State κ} {made : List Allocation}

/-- The buffers of a state are those allocated, each after the check. -/
structure Holds (made : List Allocation) (state : State κ) : Prop where
  shape : ∀ buffer, state.store.shape buffer = made[buffer]?.map Allocation.shape
  fits : ∀ allocation ∈ made, allocation.Fits

theorem Holds.size_buffers (h : Holds made state) : state.store.buffers.size = made.length := by
  have hle (n : Nat) : state.store.buffers.size ≤ n ↔ made.length ≤ n := by
    rw [← Array.getElem?_eq_none_iff, ← List.getElem?_eq_none_iff,
      ← Option.map_eq_none_iff (f := Allocation.shape), ← h.shape, Store.shape,
      Option.map_eq_none_iff]
  exact Nat.le_antisymm ((hle _).2 (Nat.le_refl _)) ((hle _).1 (Nat.le_refl _))

/-- A buffer just made is one more. -/
theorem Holds.createBuffer (h : Holds made state) {context : Context} (access : Access)
    {size : UInt64} (hallows : allows context.device size) :
    Holds (made ++ [⟨context.device, access, size⟩])
      (state.createBuffer context access size).2 where
  shape buffer := by
    rw [shape_createBuffer_eq state access hallows, h.size_buffers, h.shape]
    rcases Nat.lt_trichotomy buffer made.length with hlt | rfl | hgt
    · rw [if_neg (Nat.ne_of_lt hlt), List.getElem?_append_left hlt]
    · rw [if_pos rfl, List.getElem?_concat_length]
      rfl
    · rw [if_neg (Nat.ne_of_gt hgt), List.getElem?_eq_none (Nat.le_of_lt hgt),
        List.getElem?_eq_none (by rwa [List.length_append])]
  fits := List.forall_mem_append.2
    ⟨h.fits, List.forall_mem_singleton.2 (Allocation.allows_iff.1 hallows)⟩

/-- A buffer that exists has been allocated. -/
theorem Holds.exists_of_shape (h : Holds made state) {buffer : BufferId} {access : Access} {n : Nat}
    (hshape : state.store.shape buffer = some (access, n)) :
    ∃ allocation ∈ made, allocation.shape = (access, n) := by
  rw [h.shape] at hshape
  obtain ⟨allocation, hallocation, heq⟩ := Option.map_eq_some_iff.1 hshape
  exact ⟨allocation, List.mem_of_getElem? hallocation, heq⟩

/-- The bytes of each buffer can be counted in a word. -/
theorem Holds.countable (h : Holds made state) (buffer : BufferId) :
    4 * (state.store.memory buffer).size < UInt64.size := by
  cases hshape : state.store.shape buffer with
  | none =>
    rw [memory_of_shape hshape]
    decide
  | some found =>
    obtain ⟨allocation, hmem, heq⟩ := h.exists_of_shape hshape
    rw [Store.size_memory hshape, ← (Prod.mk.inj heq).2]
    exact (h.fits allocation hmem).countable

/-- A buffer is made if and only if it passes the check. -/
theorem createBuffer_ok_iff (state : State κ) (context : Context) (access : Access)
    (size : UInt64) :
    (∃ buffer, (state.createBuffer context access size).1 = .ok buffer) ↔
      (⟨context.device, access, size⟩ : Allocation).Fits := by
  rw [← Allocation.allows_iff, createBuffer]
  split
  · rename_i hallows
    exact iff_of_true ⟨_, rfl⟩ hallows
  · rename_i hrefused
    exact iff_of_false (by simp) hrefused

/-- A download is admitted only if it is not longer than a buffer. -/
theorem Holds.countable_of_admitRead (h : Holds made state) {queue : QueueId} {buffer : BufferId}
    {count : Nat} {wait : List EventId} {operation : Operation}
    (hadmitted : state.admitRead queue buffer count wait = .ok operation) :
    4 * count < UInt64.size := by
  obtain ⟨-, -, access, size, hshape, hle⟩ := admitRead_eq_ok hadmitted
  have hcountable := h.countable buffer
  rw [Store.size_memory hshape] at hcountable
  omega

/-- No bounds overflow in a dispatch, whatever the buffers hold. On words it does what the kernel
    does. -/
theorem Holds.checkedDispatch_eq (h : Holds made state) {memory : Memory}
    (hmemory : ∀ buffer, (memory buffer).size = (state.store.memory buffer).size) (e : Encoding)
    (args : Arguments) (size : UInt64) :
    let a := memory args.a
    let b := memory args.b
    let c := memory args.c
    let result? := VectorAdd.checkedDispatch e a.toList b.toList args.count (VectorAdd.items size)
      (e.bytes c.toList)
    result? = some (VectorAdd.dispatch e a.toList b.toList args.count (List.range size.toNat)
        (e.bytes c.toList)) ∧
      (size.toNat ≤ 2 ^ 63 →
        let (sums, failure?) := VectorAdd.run a b c size args.count
        result? = some (e.bytes sums.toList, failure?)) := by
  intro a b c result?
  have hcountable : 4 * a.toList.length < UInt64.size := by
    rw [Array.length_toList, hmemory]
    exact h.countable args.a
  have hdispatch : result? = some (VectorAdd.dispatch e a.toList b.toList args.count
      (List.range size.toNat) (e.bytes c.toList)) := by
    rw [← VectorAdd.toNat_items]
    exact VectorAdd.checkedDispatch_eq e hcountable args.count _ _
  refine ⟨hdispatch, fun hsize => hdispatch.trans (congrArg some ?_)⟩
  rw [List.range_eq_range']
  exact VectorAdd.dispatch_runItems hsize (Nat.zero_le _)

/-! ### Requests -/

variable [Clock Id κ]

/-- Only the request that makes a buffer changes which buffers there are. -/
theorem WellFormed.shape_answer_eq (h : state.WellFormed) {request : Request handles}
    (hother : ∀ context queue access size, request ≠ .createBuffer context queue access size) :
    (Host.answer (m := Id) request state).state.store.shape = state.store.shape := by
  cases hquiet : quiet request with
  | true =>
    funext buffer
    rw [Store.shape, Store.shape, buffers_answer hquiet state hother]
  | false =>
    cases request with
    | createQueue context device profiling =>
      simp only [Host.answer, createQueue]
      split
      · rfl
      · split <;> rfl
    | enqueueWrite queue buffer blocking data wait =>
      exact h.shape_enqueueWrite buffer blocking data wait
    | enqueueKernel queue kernel size wait => exact shape_enqueueKernel kernel size wait
    | enqueueRead queue buffer blocking out wait => exact h.shape_enqueueRead buffer out wait
    | finish queue => exact h.shape_drive queue none
    | _ => exact absurd hquiet.symm Bool.false_ne_true

/-- A request adds the buffer that it records. -/
theorem Holds.answer (h : Holds made state) (hwf : state.WellFormed) (request : Request handles) :
    let reply := Host.answer (m := Id) request state
    Holds (made ++ (allocationOf? ⟨request, reply.answer⟩).toList) reply.state := by
  intro reply
  by_cases hother : ∀ context queue access size,
      request ≠ .createBuffer context queue access size
  · have hnone : allocationOf? ⟨request, reply.answer⟩ = none := by
      cases request with
      | createBuffer => exact absurd rfl (hother _ _ _ _)
      | _ => rfl
    rw [hnone, Option.toList_none, List.append_nil]
    exact ⟨fun buffer => (congrFun (hwf.shape_answer_eq hother) buffer).trans (h.shape buffer),
      h.fits⟩
  · simp only [not_forall, not_not] at hother
    obtain ⟨context, queue, access, size, rfl⟩ := hother
    have hanswer : reply.answer = (state.createBuffer context access size).1 := rfl
    have hshape : reply.state.store.shape =
        (state.createBuffer context access size).2.store.shape := rfl
    rw [hanswer]
    by_cases hallows : allows context.device size
    · have hmade := h.createBuffer access hallows
      rw [State.createBuffer, if_pos hallows] at hshape hmade ⊢
      exact ⟨fun buffer => (congrFun hshape buffer).trans (hmade.shape buffer), hmade.fits⟩
    · rw [State.createBuffer, if_neg hallows] at hshape ⊢
      change Holds (made ++ []) _
      rw [List.append_nil]
      exact ⟨fun buffer => (congrFun hshape buffer).trans (h.shape buffer), h.fits⟩

/-- Requests add the buffers that they record. -/
theorem Holds.serve (h : Holds made state) (hwf : state.WellFormed)
    (requests : List (Request handles)) :
    Holds (made ++ allocations (state.exchanges requests)) (state.serve requests) := by
  induction requests generalizing state made with
  | nil => rwa [exchanges, allocations, List.filterMap_nil, List.append_nil]
  | cons request requests ih =>
    have hrest := ih (h.answer hwf request) (hwf.answer request)
    have hnext : allocations (state.exchanges (request :: requests)) =
        (allocationOf? ⟨request, (Host.answer (m := Id) request state).answer⟩).toList ++
          allocations (State.exchanges (Host.answer (m := Id) request state).state requests) := by
      rw [exchanges, allocations, List.filterMap_cons]
      split <;> rename_i hallocation <;> simp [hallocation, allocations]
    rw [List.append_assoc, ← hnext] at hrest
    exact hrest

/-- The buffers of a session are those on record. -/
theorem holds_serve_fresh (clock : κ) (platforms : List Platform) (fault : Option Status)
    (requests : List (Request handles)) :
    Holds (allocations ((fresh clock platforms fault).exchanges requests))
      ((fresh clock platforms fault).serve requests) := by
  have hnone : Holds [] (fresh clock platforms fault) :=
    ⟨fun buffer => by simp [Store.shape, fresh, State.initial], List.forall_mem_nil _⟩
  exact hnone.serve (reachable_fresh clock platforms fault).wellFormed requests

end State

end Offload.Host
