import Offload.Proofs.Host.Changes
import Offload.Proofs.Host.Reordering

/-!
# Deferred and eager execution

Commands of the host backend are deferred, and run when a call makes their queue run. An *eager*
machine runs each command where it is submitted (`Eager.answer`): it has neither queues nor pending
commands, but only shapes of buffers, kernels and a ledger.

From the answers of a queue in order nobody can tell the two apart, but for calls that finish the
queue, and finishing the queue brings it to where the eager machine is already
(`State.Reachable.exchanges_eager`). This is so because what the queue comes to (`State.settled`)
is the ledger of the machine, at any time (`State.Behind`).
-/

namespace Offload.Host

open Function

/-! ### Buffers that are not touched -/

/-- The ledger with other elements in a buffer. -/
def Ledger.replace (ledger : Ledger) (buffer : BufferId) (elements : Array Int32) : Ledger :=
  { ledger with memory := update ledger.memory buffer elements }

theorem Operation.perform_update {operation : Operation} {buffer : BufferId} (memory : Memory)
    (elements : Array Int32) (h : buffer ∉ operation.touches) :
    (operation.perform (update memory buffer elements)).1 = (operation.perform memory).1 ∧
      (operation.perform (update memory buffer elements)).2 =
        update (operation.perform memory).2 buffer elements := by
  have hsame : ∀ other ∈ operation.touches, update memory buffer elements other = memory other :=
    fun other hother => update_of_ne (by rintro rfl; exact h hother) _ _
  obtain ⟨houtcome, hmodified⟩ := perform_congr hsame
  refine ⟨houtcome, funext fun other => ?_⟩
  by_cases hmodifies : other ∈ operation.modifies
  · have hne : other ≠ buffer := fun heq => h (heq ▸ mem_touches_of_mem_modifies hmodifies)
    rw [hmodified other hmodifies, update_of_ne hne]
  · rw [perform_frame hmodifies]
    rcases eq_or_ne other buffer with rfl | hne
    · rw [update_self, update_self]
    · rw [update_of_ne hne, update_of_ne hne, perform_frame hmodifies]

namespace Ledger

variable {ledger : Ledger} {command : Command} {buffer : BufferId} {elements : Array Int32}

theorem run_replace (h : buffer ∉ command.operation.touches) :
    (ledger.replace buffer elements).run command =
      (ledger.run command).replace buffer elements := by
  obtain ⟨houtcome, hmemory⟩ := Operation.perform_update ledger.memory elements h
  have hspoils : (ledger.replace buffer elements).spoils command = ledger.spoils command := rfl
  rw [run, run, hspoils]
  split
  · rfl
  · simp only [replace, houtcome, hmemory]

/-- Commands that do not touch a buffer do the same whatever its elements are. -/
theorem runAll_replace {commands : List Command}
    (h : ∀ c ∈ commands, buffer ∉ c.operation.touches) :
    (ledger.replace buffer elements).runAll commands =
      (ledger.runAll commands).replace buffer elements := by
  induction commands generalizing ledger with
  | nil => rfl
  | cons first commands ih =>
    obtain ⟨hfirst, hrest⟩ := List.forall_mem_cons.1 h
    rw [runAll, List.foldl_cons, run_replace hfirst]
    exact ih hrest

end Ledger

/-! ### Calls -/

/-- A call on one queue, or one that makes a buffer or binds an argument. -/
inductive Call where
  /-- Allocate so many elements of device memory. -/
  | createBuffer (context : Context) (access : Access) (size : UInt64)
  /-- Bind an argument to a parameter of a kernel. -/
  | setKernelArg (kernel : KernelId) (index : Nat) (arg : Argument BufferId)
  /-- Submit an upload, and wait for it if it is blocking. -/
  | enqueueWrite (buffer : BufferId) (blocking : Bool) (data : Array Int32) (wait : List EventId)
  /-- Submit a kernel. -/
  | enqueueKernel (kernel : KernelId) (size : UInt64) (wait : List EventId)
  /-- Submit a download and wait for it. -/
  | enqueueRead (buffer : BufferId) (blocking : Bool) (out : Array Int32) (wait : List EventId)
  /-- Wait until the queue is empty. -/
  | finish

/-- The call as a request. -/
abbrev Call.request (queue : QueueId) : Call → Request handles
  | createBuffer context access size => .createBuffer context queue access size
  | setKernelArg kernel index arg => .setKernelArg kernel index arg
  | enqueueWrite buffer blocking data wait => .enqueueWrite queue buffer blocking data wait
  | enqueueKernel kernel size wait => .enqueueKernel queue kernel size wait
  | enqueueRead buffer blocking out wait => .enqueueRead queue buffer blocking out wait
  | finish => .finish queue

/-- The wait-list of a call. -/
def Call.wait : Call → List EventId
  | enqueueWrite _ _ _ wait | enqueueKernel _ _ wait | enqueueRead _ _ _ wait => wait
  | _ => []

/-! ### The eager machine -/

/-- A machine that runs commands where they are submitted. -/
structure Eager where
  /-- The hints and sizes of buffers by number. -/
  shapes : Array (Access × Nat)
  /-- The kernels by number. -/
  kernels : Array Kernel
  /-- How many events have been given out. -/
  events : Nat
  /-- What the commands have achieved. -/
  ledger : Ledger

namespace Eager

/-- Makes a buffer. -/
def allocate (machine : Eager) (access : Access) (size : Nat) : Eager :=
  { machine with
    shapes := machine.shapes.push (access, size)
    ledger := machine.ledger.replace machine.shapes.size (Array.replicate size freshElement) }

/-- The buffer that an argument names exists, if it names one. -/
def hasBuffer (machine : Eager) : Argument BufferId → Bool
  | .buffer buffer => (machine.shapes[buffer]?).isSome
  | .int _ => true

/-- Binds an argument of a kernel, if it fits and if its buffer exists. -/
def setKernelArg (machine : Eager) (kernel : KernelId) (index : Nat) (arg : Argument BufferId) :
    Except Status Unit × Eager :=
  match machine.kernels[kernel]? with
  | none => (.error .invalidArgIndex, machine)
  | some old =>
    match old.bind index arg with
    | .error status => (.error status, machine)
    | .ok new =>
      if machine.hasBuffer arg then
        (.ok (), { machine with kernels := machine.kernels.setIfInBounds kernel new })
      else (.error .invalidMemObject, machine)

/-- All events of the wait-list have been given out. -/
def checkWait (machine : Eager) (wait : List EventId) : Except Status Unit :=
  if wait.all (· < machine.events) then .ok () else .error .invalidEventWaitList

/-- Admits an upload: the host may write the buffer, and the data fit. -/
def admitWrite (machine : Eager) (buffer : BufferId) (data : Array Int32) (wait : List EventId) :
    Except Status Operation := do
  machine.checkWait wait
  match machine.shapes[buffer]? with
  | none => .error .invalidMemObject
  | some (access, size) =>
    if !access.hostCanWrite then .error .invalidOperation
    else if size < data.size then .error .invalidValue
    else .ok (.write buffer data)

/-- Admits a kernel: all its arguments are bound, and devices may write the output. -/
def admitKernel (machine : Eager) (kernel : KernelId) (size : UInt64) (wait : List EventId) :
    Except Status Operation := do
  machine.checkWait wait
  match machine.kernels[kernel]?.bind Kernel.arguments? with
  | none => .error .invalidKernelArgs
  | some args =>
    outputCheck (machine.shapes[·]?) args
    return .kernel size args

/-- Admits a download: the host may read the buffer, and it has so many elements. -/
def admitRead (machine : Eager) (buffer : BufferId) (count : Nat) (wait : List EventId) :
    Except Status Operation := do
  machine.checkWait wait
  match machine.shapes[buffer]? with
  | none => .error .invalidMemObject
  | some (access, size) =>
    if !access.hostCanRead then .error .invalidOperation
    else if size < count then .error .invalidValue
    else .ok (.read buffer count)

/-- Runs a command at once: what it fetches or why it fails, and the machine afterwards. -/
def run (machine : Eager) (operation : Operation) (wait : List EventId) :
    Except Status (Array Int32) × Eager :=
  let command : Command := ⟨operation, wait, machine.events⟩
  let outcome :=
    if machine.ledger.spoils command then .error .execStatusErrorForEventsInWaitList
    else (operation.perform machine.ledger.memory).1
  (outcome, { machine with events := machine.events + 1, ledger := machine.ledger.run command })

/-- Answers a call. What a blocking upload or a download answers is the outcome of its command. -/
def answer (queue : QueueId) (machine : Eager) :
    (call : Call) → (call.request queue).Answer × Eager
  | .createBuffer context access size =>
    if State.allows context.device size then
      (.ok machine.shapes.size, machine.allocate access size.toNat)
    else (.error .invalidBufferSize, machine)
  | .setKernelArg kernel index arg => machine.setKernelArg kernel index arg
  | .enqueueWrite buffer blocking data wait =>
    match machine.admitWrite buffer data wait with
    | .error status => (.error status, machine)
    | .ok operation =>
      let (outcome, after) := machine.run operation wait
      (if blocking then outcome.map fun _ => machine.events else .ok machine.events, after)
  | .enqueueKernel kernel size wait =>
    match machine.admitKernel kernel size wait with
    | .error status => (.error status, machine)
    | .ok operation => (.ok machine.events, (machine.run operation wait).2)
  | .enqueueRead buffer _ out wait =>
    match machine.admitRead buffer out.size wait with
    | .error status => ((.error status, out.toVector), machine)
    | .ok operation =>
      let (outcome, after) := machine.run operation wait
      (match outcome with
        | .ok fetched => (.ok machine.events, State.deliver out fetched)
        | .error status => (.error status, out.toVector), after)
  | .finish => (.ok (), machine)

/-- Calls with their answers, one after the other. -/
def exchanges (queue : QueueId) : Eager → List Call → List (Exchange handles)
  | _, [] => []
  | machine, call :: calls =>
    let (answer, after) := machine.answer queue call
    ⟨call.request queue, answer⟩ :: exchanges queue after calls

/-- The machine after calls. -/
def serve (queue : QueueId) (machine : Eager) (calls : List Call) : Eager :=
  calls.foldl (fun machine call => (machine.answer queue call).2) machine

end Eager

/-! ### The machine and the queue -/

namespace State

variable {κ : Type} {start state state' : State κ} {queue : QueueId} {machine : Eager}
  {operation : Operation} {wait : List EventId}

/-- The eager machine that goes on from a state. -/
def eager (state : State κ) : Eager where
  shapes := state.store.buffers.map fun buffer => (buffer.access, buffer.memory.size)
  kernels := state.kernels
  events := state.store.events.size
  ledger := state.store.ledger

/-- A queue in order, amid other queues as they were at the start, that comes to where the machine
    is already. -/
structure Behind (start : State κ) (queue : QueueId) (machine : Eager) (state : State κ) :
    Prop where
  serving : Serving start queue state
  inOrder : start.order? queue = some .inOrder
  known : state.Known
  fits : ∀ c ∈ state.pending queue, c.operation.Fits state.store.shape
  settled : state.settled queue = machine.ledger
  shape : ∀ buffer, state.store.shape buffer = machine.shapes[buffer]?
  kernels : state.kernels = machine.kernels
  events : state.store.events.size = machine.events

/-- A buffer just made shows in the ledger under its own number only. -/
theorem ledger_createBuffer (state : State κ) {context : Context} (access : Access) {size : UInt64}
    (hallows : allows context.device size) :
    (state.createBuffer context access size).2.store.ledger =
      state.store.ledger.replace state.store.buffers.size
        (Array.replicate size.toNat freshElement) := by
  rw [State.createBuffer, if_pos hallows]
  refine Ledger.ext (funext fun buffer => ?_) rfl
  simp only [Store.ledger, Store.memory, Ledger.replace, Array.getElem?_push]
  rcases eq_or_ne buffer state.store.buffers.size with rfl | hne
  · rw [if_pos rfl, update_self]
  · rw [if_neg hne, update_of_ne hne, Store.memory]

namespace Behind

theorem checkSubmission_eq (h : Behind start queue machine state) (wait : List EventId) :
    state.checkSubmission queue wait = machine.checkWait wait := by
  rw [checkSubmission, Eager.checkWait, if_neg (Nat.not_le.2 h.serving.alone.lt_size), h.events]

theorem admitWrite_eq (h : Behind start queue machine state) (buffer : BufferId)
    (data : Array Int32) (wait : List EventId) :
    state.admitWrite queue buffer data wait = machine.admitWrite buffer data wait := by
  rw [Eager.admitWrite, ← h.checkSubmission_eq, ← h.shape]
  exact State.admitWrite_eq buffer data

theorem admitKernel_eq (h : Behind start queue machine state) (kernel : KernelId) (size : UInt64)
    (wait : List EventId) :
    state.admitKernel queue kernel size wait = machine.admitKernel kernel size wait := by
  simp only [Eager.admitKernel, ← h.checkSubmission_eq, ← h.shape, ← h.kernels]
  exact State.admitKernel_eq kernel size

theorem admitRead_eq (h : Behind start queue machine state) (buffer : BufferId) (count : Nat)
    (wait : List EventId) :
    state.admitRead queue buffer count wait = machine.admitRead buffer count wait := by
  rw [Eager.admitRead, ← h.checkSubmission_eq, ← h.shape]
  exact State.admitRead_eq buffer count

theorem size_buffers (h : Behind start queue machine state) :
    state.store.buffers.size = machine.shapes.size := by
  have hle (n : Nat) : state.store.buffers.size ≤ n ↔ machine.shapes.size ≤ n := by
    rw [← Array.getElem?_eq_none_iff, ← Array.getElem?_eq_none_iff, ← h.shape, Store.shape,
      Option.map_eq_none_iff]
  exact Nat.le_antisymm ((hle _).2 (Nat.le_refl _)) ((hle _).1 (Nat.le_refl _))

theorem hasBuffer_eq (h : Behind start queue machine state) (arg : Argument BufferId) :
    state.hasBuffer arg = machine.hasBuffer arg := by
  rw [State.hasBuffer_eq]
  cases arg with
  | buffer buffer => exact congrArg Option.isSome (h.shape buffer)
  | int value => rfl

theorem takeNotices (h : Behind start queue machine state) :
    Behind start queue machine state.takeNotices.2 :=
  ⟨h.serving.of_same rfl rfl, h.inOrder, h.known, h.fits, h.settled, h.shape, h.kernels, h.events⟩

theorem createBuffer (h : Behind start queue machine state) (context : Context) (access : Access)
    (size : UInt64) (hallows : allows context.device size) :
    Behind start queue (machine.allocate access size.toNat)
      (state.createBuffer context access size).2 := by
  have hshape : ∀ buffer found, state.store.shape buffer = some found →
      (state.createBuffer context access size).2.store.shape buffer = some found :=
    fun buffer found => shape_createBuffer context access size
  have hledger := ledger_createBuffer state access hallows
  have hpushed := shape_createBuffer_eq state access hallows
  -- no pending command touches a buffer that did not exist when it was submitted
  have hfresh : ∀ c ∈ state.pending queue, state.store.buffers.size ∉ c.operation.touches := by
    intro c hc htouches
    have hsome := (h.fits c hc).isSome_of_mem_touches htouches
    simp [Store.shape] at hsome
  rw [State.createBuffer, if_pos hallows] at hshape hledger hpushed ⊢
  refine ⟨h.serving.of_same rfl rfl, h.inOrder, h.known.of_same rfl hshape,
    fun c hc => (h.fits c hc).mono hshape, ?_, fun buffer => ?_, h.kernels, h.events⟩
  · rw [State.settled, hledger, Eager.allocate, ← h.settled, ← h.size_buffers]
    exact Ledger.runAll_replace hfresh
  · rw [hpushed, Eager.allocate, Array.getElem?_push, h.size_buffers, h.shape]

theorem setKernelArg (h : Behind start queue machine state) (kernel : KernelId) (index : Nat)
    (arg : Argument BufferId) :
    (state.setKernelArg kernel index arg).1 = (machine.setKernelArg kernel index arg).1 ∧
      Behind start queue (machine.setKernelArg kernel index arg).2
        (state.setKernelArg kernel index arg).2 := by
  have hknown := h.known.setKernelArg kernel index arg
  simp only [State.setKernelArg, Eager.setKernelArg, ← h.kernels, ← h.hasBuffer_eq] at hknown ⊢
  cases hold : state.kernels[kernel]? with
  | none => exact ⟨rfl, h⟩
  | some old =>
    simp only [hold] at hknown ⊢
    cases hnew : old.bind index arg with
    | error status => exact ⟨rfl, h⟩
    | ok new =>
      simp only [hnew] at hknown ⊢
      cases hhas : state.hasBuffer arg with
      | false => exact ⟨rfl, h⟩
      | true =>
        simp only [hhas, if_true] at hknown ⊢
        exact ⟨trivial, h.serving.of_same rfl rfl, h.inOrder, hknown, h.fits, h.settled, h.shape,
          rfl, h.events⟩

theorem submit (h : Behind start queue machine state)
    (hcheck : state.checkSubmission queue wait = .ok ()) (hfits : operation.Fits state.store.shape)
    (hwait : ∀ event ∈ wait, ∀ queue' ≠ queue, ∀ other ∈ start.pending queue',
      other.event ≠ event) :
    Behind start queue (machine.run operation wait).2 (state.submit queue operation wait).2 := by
  have hqueue := h.serving.alone.lt_size
  refine ⟨h.serving.submit hcheck ⟨hwait, .inl h.inOrder⟩, h.inOrder, h.known, fun c hc => ?_, ?_,
    h.shape, h.kernels, ?_⟩
  · rw [pending_submit operation wait hqueue, if_pos rfl] at hc
    rcases List.mem_append.1 hc with hc | hc
    · exact h.fits c hc
    · obtain rfl := List.mem_singleton.1 hc
      exact hfits
  · rw [settled_submit hqueue, h.settled, h.events]
    rfl
  · rw [size_events_submit, h.events]
    rfl

variable [Clock Id κ]

theorem drive (h : Behind start queue machine state) (target : Option EventId) :
    Behind start queue machine (state.drive (m := Id) queue target).2 := by
  obtain ⟨hserving, halike⟩ := h.serving.drive target
  rcases hdrive : state.drive (m := Id) queue target with ⟨answer, after⟩
  rw [hdrive] at hserving halike
  obtain ⟨log, -, hran, -⟩ := h.serving.alone.wellFormed.drive h.serving.alone.lt_size hdrive
  refine ⟨hserving, h.inOrder, h.known.of_same hran.kernels fun _ _ hfound => hran.shape ▸ hfound,
    fun c hc => hran.shape ▸ h.fits c (hran.sublist.subset hc), halike.settled.symm.trans h.settled,
    fun buffer => hran.shape ▸ h.shape buffer, hran.kernels.trans h.kernels,
    hran.size_events.trans h.events⟩

/-- A command that is waited for ends as on the machine. -/
theorem await (h : Behind start queue machine state)
    (hcheck : state.checkSubmission queue wait = .ok ()) (hfits : operation.Fits state.store.shape)
    (hwait : ∀ event ∈ wait, ∀ queue' ≠ queue, ∀ other ∈ start.pending queue',
      other.event ≠ event) :
    ∃ driven after, (state.submit queue operation wait).2.drive (m := Id) queue
        (some state.store.events.size) = (driven, after) ∧
      after.store.outcome? state.store.events.size = some (machine.run operation wait).1 ∧
      Behind start queue (machine.run operation wait).2 after := by
  have hsubmit := h.submit hcheck hfits hwait
  have hmem : ⟨operation, wait, state.store.events.size⟩ ∈
      (state.submit queue operation wait).2.pending queue := by
    simp [pending_submit operation wait h.serving.alone.lt_size]
  obtain ⟨outcome, hsettled, houtcome⟩ :=
    hsubmit.serving.alone.await hsubmit.serving.ordered hmem
  have hrun : (machine.run operation wait).2.ledger.outcome machine.events =
      some (machine.run operation wait).1 := Ledger.outcome_run_self
  rw [hsubmit.settled, h.events, hrun] at hsettled
  obtain rfl := Option.some.inj hsettled
  exact ⟨_, _, rfl, houtcome, hsubmit.drive _⟩

/-- A call gets the same answer from the queue as from the machine, but for one that finishes the
    queue, and leaves the queue behind the machine. -/
theorem answer (h : Behind start queue machine state) {call : Call}
    (hwait : ∀ event ∈ call.wait, ∀ queue' ≠ queue, ∀ other ∈ start.pending queue',
      other.event ≠ event) :
    Behind start queue (machine.answer queue call).2
        (Host.answer (m := Id) (call.request queue) state).state ∧
      (finishes (call.request queue) = false →
        (Host.answer (m := Id) (call.request queue) state).answer =
          (machine.answer queue call).1) := by
  cases call with
  | createBuffer context access size =>
    cases hallows : allows context.device size with
    | false =>
      simp only [Host.answer, State.createBuffer, Eager.answer, hallows]
      exact ⟨h.takeNotices, fun _ => rfl⟩
    | true =>
      have hcreated := (h.createBuffer context access size hallows).takeNotices
      simp only [Host.answer, State.createBuffer, Eager.answer, hallows, if_true] at hcreated ⊢
      exact ⟨hcreated, fun _ => congrArg Except.ok h.size_buffers⟩
  | setKernelArg kernel index arg =>
    obtain ⟨hanswer, hbehind⟩ := h.setKernelArg kernel index arg
    exact ⟨hbehind.takeNotices, fun _ => hanswer⟩
  | enqueueWrite buffer blocking data wait =>
    simp only [Host.answer, Eager.answer, ← h.admitWrite_eq]
    cases hadmitted : state.admitWrite queue buffer data wait with
    | error status =>
      rw [enqueueWrite_eq, hadmitted]
      exact ⟨h.takeNotices, fun _ => rfl⟩
    | ok operation =>
      obtain ⟨hcheck, rfl, hfits⟩ := admitWrite_fits hadmitted
      cases blocking with
      | false =>
        rw [enqueueWrite_eq, hadmitted]
        have hsubmit := h.submit hcheck hfits hwait
        exact ⟨hsubmit.takeNotices, fun _ => congrArg Except.ok h.events⟩
      | true =>
        obtain ⟨driven, after, hdrive, houtcome, hafter⟩ := h.await hcheck hfits hwait
        rw [enqueueWrite_of_outcome hadmitted hdrive houtcome]
        refine ⟨hafter.takeNotices, fun _ => ?_⟩
        rw [h.events]
        rfl
  | enqueueKernel kernel size wait =>
    simp only [Host.answer, Eager.answer, ← h.admitKernel_eq, enqueueKernel_eq]
    cases hadmitted : state.admitKernel queue kernel size wait with
    | error status => exact ⟨h.takeNotices, fun _ => rfl⟩
    | ok operation =>
      obtain ⟨hcheck, hfits⟩ := h.known.admitKernel_eq_ok hadmitted
      exact ⟨(h.submit hcheck hfits hwait).takeNotices, fun _ => congrArg Except.ok h.events⟩
  | enqueueRead buffer blocking out wait =>
    simp only [Host.answer, Eager.answer, ← h.admitRead_eq]
    cases hadmitted : state.admitRead queue buffer out.size wait with
    | error status =>
      rw [enqueueRead_eq, hadmitted]
      exact ⟨h.takeNotices, fun _ => rfl⟩
    | ok operation =>
      obtain ⟨hcheck, rfl, hfits⟩ := admitRead_fits hadmitted
      obtain ⟨driven, after, hdrive, houtcome, hafter⟩ := h.await hcheck hfits hwait
      rw [enqueueRead_of_outcome hadmitted hdrive houtcome]
      refine ⟨hafter.takeNotices, fun _ => ?_⟩
      rw [h.events]
      simp only [reply, downloaded]
      cases (machine.run (.read buffer out.size) wait).1 <;> rfl
  | finish =>
    exact ⟨(h.drive none).takeNotices, fun hfinishes => absurd hfinishes.symm Bool.false_ne_true⟩

theorem serve (h : Behind start queue machine state) {calls : List Call}
    (hwait : ∀ call ∈ calls, ∀ event ∈ call.wait, ∀ queue' ≠ queue,
      ∀ other ∈ start.pending queue', other.event ≠ event) :
    Behind start queue (machine.serve queue calls) (state.serve (calls.map (·.request queue))) ∧
      (state.exchanges (calls.map (·.request queue))).filter (!finishes ·.1) =
        (machine.exchanges queue calls).filter (!finishes ·.1) := by
  induction calls generalizing machine state with
  | nil => exact ⟨h, rfl⟩
  | cons call calls ih =>
    obtain ⟨hfirst, hrest⟩ := List.forall_mem_cons.1 hwait
    obtain ⟨hbehind, hanswer⟩ := h.answer hfirst
    obtain ⟨hserve, hexchanges⟩ := ih hbehind hrest
    refine ⟨hserve, ?_⟩
    rw [List.map_cons, State.exchanges, Eager.exchanges]
    -- only the answers of calls that finish the queue may differ, and these are left out
    cases hfinishes : finishes (call.request queue) with
    | true => simpa [hfinishes] using hexchanges
    | false => simp [hfinishes, hexchanges, hanswer hfinishes]

end Behind

variable [Clock Id κ]

theorem Reachable.behind_eager (h : Reachable state) (horder : state.order? queue = some .inOrder)
    (hidle : state.pending queue = []) : Behind state queue state.eager state := by
  have hqueue : queue < state.queues.size := by
    obtain ⟨q, hq, -⟩ := Option.map_eq_some_iff.1 horder
    exact (Array.getElem?_eq_some_iff.1 hq).1
  refine ⟨⟨⟨h.wellFormed, hqueue, by simp [hidle]⟩, .inl horder, rfl, fun _ _ => rfl⟩, horder,
    h.known, by simp [hidle], ?_, fun buffer => ?_, rfl, rfl⟩
  · rw [State.settled, hidle]
    rfl
  · rw [eager, Array.getElem?_map]
    rfl

/-- Nobody can tell a queue in order from a machine that runs each command where it is submitted:
    all calls get the same answers, but for those that finish the queue, and whenever the queue is
    finished, the buffers have the elements and the events the outcomes that they have on the
    machine already. -/
theorem Reachable.exchanges_eager (h : Reachable state)
    (horder : state.order? queue = some .inOrder) (hidle : state.pending queue = [])
    {calls : List Call}
    (hwait : ∀ call ∈ calls, ∀ event ∈ call.wait, ∀ queue' ≠ queue,
      ∀ other ∈ state.pending queue', other.event ≠ event) :
    let requests := calls.map (·.request queue)
    let finished := ((state.serve requests).finish (m := Id) queue).2
    let machine := state.eager.serve queue calls
    (state.exchanges requests).filter (!finishes ·.1) =
        (state.eager.exchanges queue calls).filter (!finishes ·.1) ∧
      finished.pending queue = [] ∧
      (∀ buffer, finished.store.memory buffer = machine.ledger.memory buffer) ∧
      ∀ event, finished.store.outcome? event = machine.ledger.outcome event := by
  intro requests finished machine
  obtain ⟨hbehind, hexchanges⟩ := (h.behind_eager horder hidle).serve hwait
  obtain ⟨hempty, hledger⟩ := hbehind.serving.alone.finish hbehind.serving.ordered
  have hsame : finished.store.ledger = machine.ledger := hledger.trans hbehind.settled
  refine ⟨hexchanges, hempty, fun buffer => ?_, fun event => ?_⟩
  · exact congrFun (congrArg Ledger.memory hsame) buffer
  · exact congrFun (congrArg Ledger.outcome hsame) event

/-- A kernel that runs over the end of its output, bound anew after it was submitted. -/
theorem exchanges_eager_of_overrun :
    let device : Device := { name := "", kind := .cpu }
    let state : State Readings := (State.initial (.ofFunction fun _ => 0)).serve
      [.createQueue ⟨device⟩ device true,
        .createProgram ⟨device⟩ "__kernel void vecadd(a, b, c, n)", .buildProgram 0 device,
        .createKernel 0 0 "vecadd" vectorAddParams]
    let calls : List Call :=
      [.createBuffer ⟨device⟩ .input 2, .createBuffer ⟨device⟩ .output 1,
        .setKernelArg 0 0 (.buffer 0), .setKernelArg 0 1 (.buffer 0), .setKernelArg 0 2 (.buffer 1),
        .setKernelArg 0 3 (.int 2), .enqueueWrite 0 false #[1, 2] [], .enqueueKernel 0 2 [0],
        .setKernelArg 0 3 (.int 0), .enqueueKernel 0 2 [], .enqueueRead 1 true #[0] [1],
        .enqueueRead 1 true #[0] []]
    let finished := ((state.serve (calls.map (·.request 0))).finish (m := Id) 0).2
    state.Reachable ∧ finished.store.memory 1 = #[2] ∧
      (state.eager.serve 0 calls).ledger.memory 1 = #[2] ∧
      (state.eager.serve 0 calls).ledger.failure? 1 = some .outOfResources := by
  intro device state calls finished
  have hreachable : state.Reachable := (reachable_initial _).serve _
  have horder : state.order? 0 = some .inOrder := by decide +kernel
  have hidle (queue : QueueId) : state.pending queue = [] := by
    have hsize : state.queues.size = 1 := by decide +kernel
    have hfirst : (state.pending 0).isEmpty := by decide +kernel
    rcases Nat.eq_zero_or_pos queue with rfl | hpos
    · exact List.isEmpty_iff.1 hfirst
    · rw [State.pending, Array.getElem?_eq_none (hsize ▸ hpos)]
  have hwait : ∀ call ∈ calls, ∀ event ∈ call.wait, ∀ queue ≠ 0,
      ∀ other ∈ state.pending queue, other.event ≠ event := by simp [hidle]
  have heager := hreachable.exchanges_eager horder (hidle 0) hwait
  obtain ⟨-, -, hmemory, -⟩ := heager
  have hlast : (state.eager.serve 0 calls).ledger.memory 1 = #[2] := by decide +kernel
  exact ⟨hreachable, (hmemory 1).trans hlast, hlast, by decide +kernel⟩

end State

end Offload.Host
