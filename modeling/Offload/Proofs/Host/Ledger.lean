import Mathlib.Logic.Function.Basic
import Offload.Proofs.Host.Arguments
import Offload.Proofs.Host.VectorSum

/-!
# Ledgers

A *ledger* holds what commands achieve, without the clock, the stamps and the notices: the elements
of every buffer and, for every event that has resolved, what its command has fetched or why it has
failed. `Ledger.run` lets a command act on a ledger; running it on a queue does the same to the
ledger of the store (`Queue.execute_spec`), whatever the queue and the clock.

An operation depends on the buffers that it *touches* only, and changes only those that it
*modifies* (`Operation.perform_congr`, `Operation.perform_frame`).
-/

namespace Offload.Host

open Function

/-! ### Operations on memory -/

/-- The elements of all buffers. -/
abbrev Memory := BufferId → Array Int32

namespace Operation

/-- The buffers that an operation reads or writes. -/
def touches : Operation → List BufferId
  | write target _ => [target]
  | kernel _ args =>
    match VectorAdd.arguments args with
    | .ok args => [args.a, args.b, args.c]
    | .error _ => []
  | read source _ => [source]

/-- The buffers that an operation may change. -/
def modifies : Operation → List BufferId
  | write target _ => [target]
  | kernel _ args =>
    match VectorAdd.arguments args with
    | .ok args => [args.c]
    | .error _ => []
  | read _ _ => []

/-- Two operations touch a common buffer that one of them may change. -/
def Conflicts (x y : Operation) : Prop :=
  ∃ buffer ∈ x.touches, buffer ∈ y.touches ∧ (buffer ∈ x.modifies ∨ buffer ∈ y.modifies)

/-- What an operation fetches, or why it fails, and the memory afterwards. -/
def perform (memory : Memory) : Operation → Except Status (Array Int32) × Memory
  | write target data =>
    if data.size ≤ (memory target).size then
      (.ok #[], update memory target (overwrite data (memory target)))
    else (.error .invalidValue, memory)
  | kernel size args =>
    match VectorAdd.arguments args with
    | .error status => (.error status, memory)
    | .ok args =>
      let result := VectorAdd.run (memory args.a) (memory args.b) (memory args.c) size args.count
      (match result.2 with
        | none => .ok #[]
        | some status => .error status,
        update memory args.c result.1)
  | read source count =>
    if count ≤ (memory source).size then (.ok ((memory source).extract 0 count), memory)
    else (.error .invalidValue, memory)

theorem Conflicts.symm {x y : Operation} (h : x.Conflicts y) : y.Conflicts x :=
  let ⟨buffer, hx, hy, hm⟩ := h
  ⟨buffer, hy, hx, hm.symm⟩

@[simp]
theorem touches_kernel (size : UInt64) (args : Arguments) :
    (kernel size args.vector).touches = [args.a, args.b, args.c] := by
  rw [touches, VectorAdd.arguments_vector]

theorem perform_kernel (size : UInt64) (args : Arguments) (memory : Memory) :
    (kernel size args.vector).perform memory =
      let result := VectorAdd.run (memory args.a) (memory args.b) (memory args.c) size args.count
      (match result.2 with
        | none => .ok #[]
        | some status => .error status,
        update memory args.c result.1) := by
  rw [perform, VectorAdd.arguments_vector]

theorem mem_touches_of_mem_modifies {operation : Operation} {buffer : BufferId}
    (h : buffer ∈ operation.modifies) : buffer ∈ operation.touches := by
  cases operation with
  | write | read => simp_all [modifies, touches]
  | kernel size args =>
    cases hargs : VectorAdd.arguments args <;> simp_all [modifies, touches]

theorem perform_frame {operation : Operation} {memory : Memory} {buffer : BufferId}
    (h : buffer ∉ operation.modifies) : (operation.perform memory).2 buffer = memory buffer := by
  cases operation with
  | write target data =>
    rw [perform]
    split
    · exact update_of_ne (by simpa [modifies] using h) _ _
    · rfl
  | kernel size args =>
    rw [perform]
    cases hargs : VectorAdd.arguments args with
    | error status => rfl
    | ok args => exact update_of_ne (by simpa [modifies, hargs] using h) _ _
  | read source count =>
    rw [perform]
    split <;> rfl

/-- An operation that finds the same in the buffers it touches does the same. -/
theorem perform_congr {operation : Operation} {memory memory' : Memory}
    (h : ∀ buffer ∈ operation.touches, memory buffer = memory' buffer) :
    (operation.perform memory).1 = (operation.perform memory').1 ∧
      ∀ buffer ∈ operation.modifies,
        (operation.perform memory).2 buffer = (operation.perform memory').2 buffer := by
  cases operation with
  | write target data =>
    rw [perform, perform, h target (by simp [touches])]
    split <;> simp_all [modifies, touches]
  | kernel size args =>
    rw [perform, perform, modifies]
    cases hargs : VectorAdd.arguments args with
    | error status => exact ⟨rfl, fun _ hbuffer => absurd hbuffer List.not_mem_nil⟩
    | ok args =>
      rw [touches, hargs] at h
      simp [h args.a (by simp), h args.b (by simp), h args.c (by simp)]
  | read source count =>
    rw [perform, perform, h source (by simp [touches])]
    split <;> simp_all [modifies]

theorem getElem?_overwrite {data memory : Array Int32} {i : Nat} {x : Int32}
    (h : data[i]? = some x) : (overwrite data memory)[i]? = some x := by
  obtain ⟨hlt, -⟩ := Array.getElem?_eq_some_iff.1 h
  rw [overwrite, Array.getElem?_append_left hlt, h]

/-- An upload that succeeds leaves its data in the target. -/
theorem getElem?_perform_write {target : BufferId} {data fetched : Array Int32} {memory : Memory}
    (hok : ((write target data).perform memory).1 = .ok fetched) {i : Nat} {x : Int32}
    (h : data[i]? = some x) : (((write target data).perform memory).2 target)[i]? = some x := by
  rw [perform] at hok ⊢
  split at hok
  · rename_i hle
    simp only [if_pos hle, update_self]
    exact getElem?_overwrite h
  · exact nomatch hok

/-- A kernel that succeeds leaves sums in the output. -/
theorem getElem?_perform_kernel {size : UInt64} {args : Arguments} {fetched : Array Int32}
    {memory : Memory} (hok : ((kernel size args.vector).perform memory).1 = .ok fetched) {i : Nat}
    (hi : i < VectorAdd.activeItems size args.count) {x y : Int32}
    (hx : (memory args.a)[i]? = some x) (hy : (memory args.b)[i]? = some y) :
    (((kernel size args.vector).perform memory).2 args.c)[i]? = some (x + y) := by
  simp only [perform_kernel, update_self] at hok ⊢
  split at hok
  · rename_i hfailure
    exact VectorAdd.getElem?_run_of_lt (by rwa [VectorAdd.covered_of_run hfailure]) hx hy
  · contradiction

/-- A download that succeeds fetches the elements of the source. -/
theorem getElem?_perform_read {source : BufferId} {count : Nat} {fetched : Array Int32}
    {memory : Memory} (hok : ((read source count).perform memory).1 = .ok fetched) :
    fetched.size = count ∧ ∀ i < count, fetched[i]? = (memory source)[i]? := by
  rw [perform] at hok
  split at hok
  · obtain rfl := Except.ok.inj hok
    refine ⟨by simp; omega, fun i hi => ?_⟩
    rw [Array.getElem?_extract]
    simp
    omega
  · contradiction

/-- An operation fails for a size that does not fit, for want of elements, or for its arguments. -/
theorem status_of_perform {operation : Operation} {memory : Memory} {status : Status}
    (h : (operation.perform memory).1 = .error status) :
    status ∈ [.invalidValue, .outOfResources, .invalidKernelArgs, .invalidArgValue] := by
  cases operation with
  | write target data =>
    rw [perform] at h
    split at h
    · contradiction
    · simp [← Except.error.inj h]
  | kernel size args =>
    rw [perform] at h
    cases hargs : VectorAdd.arguments args with
    | error status' =>
      rw [hargs] at h
      obtain rfl := Except.error.inj h
      rcases VectorAdd.status_of_arguments hargs with rfl | rfl <;> simp
    | ok args =>
      simp only [hargs, VectorAdd.run_failure] at h
      split at h <;> rename_i heq
      · contradiction
      · rw [Option.ite_none_left_eq_some] at heq
        simp [← Except.error.inj h, ← Option.some.inj heq.2]
  | read source count =>
    rw [perform] at h
    split at h
    · contradiction
    · simp [← Except.error.inj h]

/-- Operations without conflict can change places. -/
theorem perform_comm {x y : Operation} (h : ¬x.Conflicts y) (memory : Memory) :
    (y.perform (x.perform memory).2).1 = (y.perform memory).1 ∧
      (y.perform (x.perform memory).2).2 = (x.perform (y.perform memory).2).2 := by
  -- each operation leaves what the other one touches as it was
  have hx : ∀ buffer ∈ y.touches, (x.perform memory).2 buffer = memory buffer := by
    intro buffer hy
    exact perform_frame fun hm => h ⟨buffer, mem_touches_of_mem_modifies hm, hy, .inl hm⟩
  have hy : ∀ buffer ∈ x.touches, (y.perform memory).2 buffer = memory buffer := by
    intro buffer hx
    exact perform_frame fun hm => h ⟨buffer, hx, mem_touches_of_mem_modifies hm, .inr hm⟩
  refine ⟨(perform_congr hx).1, ?_⟩
  funext buffer
  -- at most one of the two operations may change the buffer
  by_cases hmx : buffer ∈ x.modifies
  · have hmy : buffer ∉ y.modifies := fun hmy =>
      h ⟨buffer, mem_touches_of_mem_modifies hmx, mem_touches_of_mem_modifies hmy, .inl hmx⟩
    rw [perform_frame hmy, (perform_congr hy).2 buffer hmx]
  · by_cases hmy : buffer ∈ y.modifies
    · rw [(perform_congr hx).2 buffer hmy, perform_frame hmx]
    · rw [perform_frame hmy, perform_frame hmx, perform_frame hmx, perform_frame hmy]

end Operation

/-! ### Commands on ledgers -/

/-- What the commands so far have achieved. -/
@[ext]
structure Ledger where
  /-- The elements of the buffers. -/
  memory : Memory
  /-- What the command of an event has fetched or why it has failed, once it has resolved. -/
  outcome : EventId → Option (Except Status (Array Int32))

namespace Ledger

/-- Why the command of an event has failed, if it has. -/
def failure? (ledger : Ledger) (event : EventId) : Option Status :=
  match ledger.outcome event with
  | some (.error status) => some status
  | _ => none

/-- Some event of the wait-list has failed. -/
def spoils (ledger : Ledger) (command : Command) : Bool :=
  command.wait.any fun event => (ledger.failure? event).isSome

/-- Runs a command. With a failure in its wait-list it fails without doing anything. -/
def run (ledger : Ledger) (command : Command) : Ledger :=
  if ledger.spoils command then
    let outcome := .error .execStatusErrorForEventsInWaitList
    { ledger with outcome := update ledger.outcome command.event (some outcome) }
  else
    let result := command.operation.perform ledger.memory
    ⟨result.2, update ledger.outcome command.event (some result.1)⟩

/-- Runs commands one after the other. -/
def runAll (ledger : Ledger) (commands : List Command) : Ledger :=
  commands.foldl run ledger

variable {ledger : Ledger} {command : Command} {event : EventId}

theorem outcome_run_of_ne (h : event ≠ command.event) :
    (ledger.run command).outcome event = ledger.outcome event := by
  rw [run]
  split <;> exact update_of_ne h _ _

theorem outcome_run_self :
    (ledger.run command).outcome command.event =
      some (if ledger.spoils command then .error .execStatusErrorForEventsInWaitList
        else (command.operation.perform ledger.memory).1) := by
  rw [run]
  split <;> exact update_self ..

theorem isSome_outcome_run : ((ledger.run command).outcome command.event).isSome := by
  rw [outcome_run_self, Option.isSome_some]

/-- A command never fails with the status that says that a queue is stuck. -/
theorem failure?_run_self :
    (ledger.run command).failure? command.event ≠ some .invalidEventWaitList := by
  rw [failure?, outcome_run_self]
  split
  · rename_i status hstatus
    split at hstatus
    · cases hstatus
      exact nofun
    · rintro ⟨rfl⟩
      exact absurd (Operation.status_of_perform (Option.some.inj hstatus)) (by decide)
  · exact nofun

/-- A command that does not fail has been carried out. -/
theorem run_of_not_failed (h : (ledger.run command).failure? command.event = none) :
    (∀ event ∈ command.wait, ledger.failure? event = none) ∧
      (∃ fetched, (command.operation.perform ledger.memory).1 = .ok fetched ∧
        (ledger.run command).outcome command.event = some (.ok fetched)) ∧
      (ledger.run command).memory = (command.operation.perform ledger.memory).2 := by
  rw [failure?, outcome_run_self] at h
  cases hspoils : ledger.spoils command with
  | true => simp [hspoils] at h
  | false =>
    refine ⟨by simpa [spoils] using hspoils, ?_, ?_⟩
    · cases hperform : (command.operation.perform ledger.memory).1 with
      | ok fetched => exact ⟨fetched, rfl, by rw [outcome_run_self, hspoils, hperform]; rfl⟩
      | error status => simp [hspoils, hperform] at h
    · rw [run, if_neg (by simp [hspoils])]

theorem spoils_run {x y : Command} (h : x.event ∉ y.wait) :
    (ledger.run x).spoils y = ledger.spoils y := by
  rw [Bool.eq_iff_iff, spoils, spoils, List.any_eq_true, List.any_eq_true]
  refine exists_congr fun event => and_congr_right fun hevent => ?_
  rw [failure?, failure?, outcome_run_of_ne fun heq => h (heq ▸ hevent)]

/-- Commands that neither conflict nor wait for each other can change places. -/
theorem run_comm {x y : Command} (hne : x.event ≠ y.event) (hx : y.event ∉ x.wait)
    (hy : x.event ∉ y.wait) (hconflict : ¬x.operation.Conflicts y.operation) :
    (ledger.run x).run y = (ledger.run y).run x := by
  obtain ⟨houtcome, hmemory⟩ := Operation.perform_comm hconflict ledger.memory
  have houtcome' :
      (x.operation.perform (y.operation.perform ledger.memory).2).1 =
        (x.operation.perform ledger.memory).1 :=
    (Operation.perform_comm (fun h => hconflict (h.symm)) ledger.memory).1
  -- neither command decides whether the other one is spoiled
  rw [run, spoils_run hy, run.eq_1 (ledger.run y), spoils_run hx]
  cases hsx : ledger.spoils x <;> cases hsy : ledger.spoils y <;>
    simp only [run, hsx, hsy, if_true, Bool.false_eq_true, if_false, update_comm hne,
      houtcome, houtcome', hmemory]

theorem runAll_append {before after : List Command} :
    ledger.runAll (before ++ after) = (ledger.runAll before).runAll after :=
  List.foldl_append

/-- Once an event has resolved, other commands do not change its outcome. -/
theorem outcome_runAll {commands : List Command} (h : ∀ c ∈ commands, event ≠ c.event) :
    (ledger.runAll commands).outcome event = ledger.outcome event := by
  induction commands generalizing ledger with
  | nil => rfl
  | cons first commands ih =>
    rw [runAll, List.foldl_cons]
    exact (ih fun c hc => h c (List.mem_cons_of_mem _ hc)).trans
      (outcome_run_of_ne (h first List.mem_cons_self))

/-- A command that neither conflicts with the commands before it nor waits for one of them, and that
    none of them waits for, can go first. -/
theorem runAll_move_first {before after : List Command}
    (h : ∀ c ∈ before, c.event ≠ command.event ∧ command.event ∉ c.wait ∧ c.event ∉ command.wait ∧
      ¬c.operation.Conflicts command.operation) :
    ledger.runAll (before ++ command :: after) = (ledger.run command).runAll (before ++ after) := by
  induction before generalizing ledger with
  | nil => rfl
  | cons first before ih =>
    obtain ⟨hne, hwait, hwait', hconflict⟩ := h first List.mem_cons_self
    -- the command goes first among the rest, and then before the first
    calc ledger.runAll (first :: before ++ command :: after)
      _ = (ledger.run first).runAll (before ++ command :: after) := rfl
      _ = ((ledger.run first).run command).runAll (before ++ after) :=
        ih fun c hc => h c (List.mem_cons_of_mem _ hc)
      _ = ((ledger.run command).run first).runAll (before ++ after) := by
        rw [run_comm hne hwait hwait' hconflict]

end Ledger

end Offload.Host
