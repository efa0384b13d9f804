import Offload.Host.Device
import Offload.Host.Store
import Offload.Host.VectorAdd

/-!
# Command queues

Commands are deferred: submitting one only appends it to the pending list of its queue, and it
runs when a blocking call or a `finish` drives the queue forward. A command is *ready* once all
events of its wait-list have resolved. A queue in order runs its first pending command or none; a
queue out of order always runs the last pending command that is ready, so that a missing wait-list
edge shows.

`Queue.advance` drives a queue until a given event has resolved, or until it is empty. It gives up
when no pending command is ready, because then only other queues could help. A command with a
failed event in its wait-list fails without running (`Queue.execute`).
-/

namespace Offload.Host

/-- What a command does. -/
inductive Operation where
  /-- Uploads data into the first elements of a buffer. -/
  | write (target : BufferId) (data : Array Int32)
  /-- Runs the vector addition with so many work items on an argument vector. -/
  | kernel (size : UInt64) (args : List Bound)
  /-- Downloads so many elements from the start of a buffer. -/
  | read (source : BufferId) (count : Nat)
  deriving Repr

/-- The kind of a command that does this. -/
def Operation.kind : Operation → CommandKind
  | write _ _ => .write
  | kernel _ _ => .kernel
  | read _ _ => .read

/-- A submitted command. -/
structure Command where
  /-- What it does. -/
  operation : Operation
  /-- The events it waits for. -/
  wait : List EventId
  /-- Its own event. -/
  event : EventId
  deriving Repr

/-- All events of the wait-list have resolved. -/
def Command.isReady {κ : Type} (command : Command) (store : Store κ) : Bool :=
  command.wait.all store.isResolved

/-- Data over the first elements of a longer array. -/
def overwrite (data memory : Array Int32) : Array Int32 :=
  data ++ memory.extract data.size memory.size

/-- Carries out an operation: what it fetches, or why it fails, and the store afterwards. A kernel
    that fails may have changed its output before. -/
def Store.perform {κ : Type} (store : Store κ) :
    Operation → Except Status (Array Int32) × Store κ
  | .write target data =>
    let memory := store.memory target
    if data.size ≤ memory.size then (.ok #[], store.setMemory target (overwrite data memory))
    else (.error .invalidValue, store)
  | .kernel size args =>
    match VectorAdd.arguments args with
    | .error status => (.error status, store)
    | .ok args =>
      let (c, failure?) :=
        VectorAdd.run (store.memory args.a) (store.memory args.b) (store.memory args.c) size
          args.count
      let store := store.setMemory args.c c
      match failure? with
      | none => (.ok #[], store)
      | some status => (.error status, store)
  | .read source count =>
    let memory := store.memory source
    if count ≤ memory.size then (.ok (memory.extract 0 count), store)
    else (.error .invalidValue, store)

/-- A command queue. -/
structure Queue where
  /-- The order in which it runs its commands. -/
  order : QueueOrder
  /-- It takes timestamps. -/
  profiling : Bool
  /-- Its device's timestamps run backwards. -/
  backwardsClock : Bool
  /-- The commands that have not run yet, in the order of submission. -/
  pending : List Command := []
  deriving Repr

namespace Queue

variable {κ : Type}

/-- Takes the last command that passes the test out of a list. -/
def takeLast? (test : Command → Bool) : List Command → Option (Command × List Command)
  | [] => none
  | command :: rest =>
    match takeLast? test rest with
    | some (last, rest) => some (last, command :: rest)
    | none => if test command then some (command, rest) else none

/-- Takes the first command out of a list if it passes the test. -/
def takeFirst? (test : Command → Bool) : List Command → Option (Command × List Command)
  | [] => none
  | command :: rest => if test command then some (command, rest) else none

/-- Takes the command that runs next, if any pending command may run now. -/
def next? (queue : Queue) (store : Store κ) : Option (Command × Queue) :=
  let taken :=
    match queue.order with
    | .inOrder => takeFirst? (·.isReady store) queue.pending
    | .outOfOrder => takeLast? (·.isReady store) queue.pending
  taken.map fun (command, pending) => (command, { queue with pending })

theorem length_takeLast? {test : Command → Bool} {commands rest : List Command}
    {command : Command} (h : takeLast? test commands = some (command, rest)) :
    commands.length = rest.length + 1 := by
  induction commands generalizing rest with
  | nil => simp [takeLast?] at h
  | cons first commands ih =>
    rw [takeLast?] at h
    split at h
    · rename_i last others hlast
      simp only [Option.some.injEq, Prod.mk.injEq] at h
      rw [← h.2, List.length_cons, List.length_cons, ih (h.1 ▸ hlast)]
    · split at h
      · simp only [Option.some.injEq, Prod.mk.injEq] at h
        rw [← h.2, List.length_cons]
      · simp at h

theorem length_takeFirst? {test : Command → Bool} {commands rest : List Command}
    {command : Command} (h : takeFirst? test commands = some (command, rest)) :
    commands.length = rest.length + 1 := by
  cases commands with
  | nil => simp [takeFirst?] at h
  | cons first commands =>
    rw [takeFirst?] at h
    split at h
    · simp only [Option.some.injEq, Prod.mk.injEq] at h
      rw [← h.2, List.length_cons]
    · simp at h

/-- Taking a command leaves one command less. -/
theorem length_next? {queue rest : Queue} {store : Store κ} {command : Command}
    (h : queue.next? store = some (command, rest)) :
    queue.pending.length = rest.pending.length + 1 := by
  simp only [next?, Option.map_eq_some_iff, Prod.mk.injEq] at h
  obtain ⟨⟨taken, pending⟩, htaken, -, hrest⟩ := h
  rw [← hrest]
  split at htaken
  · exact length_takeFirst? htaken
  · exact length_takeLast? htaken

variable {m : Type → Type} [Monad m] [Clock m κ]

/-- Runs a command and settles its event: the failure, if any, and the store afterwards. The clock
    is read right before and right after the operation. -/
def execute (queue : Queue) (command : Command) (store : Store κ) :
    m (Option Status × Store κ) :=
  if command.wait.any store.hasFailed then
    -- the command does not run, so there is nothing to stamp and nothing to report
    let status := Status.execStatusErrorForEventsInWaitList
    pure (some status, store.resolve command.event (.failed status))
  else do
    let (start, clock) ← Clock.read store.clock
    let (outcome, store) := { store with clock }.perform command.operation
    let (stop, clock) ← Clock.read store.clock
    let store := { store with clock }
    let stamps : Stamps := ⟨start, stop⟩
    match outcome with
    | .ok fetched =>
      let stamps := if queue.backwardsClock then stamps.reversed else stamps
      return (none, store.resolve command.event (.complete stamps) fetched)
    | .error status =>
      let store := store.note (.commandFailed command.operation.kind.label status)
      return (some status, store.resolve command.event (.failed status))

/-- Drives a queue until the target has resolved, or without a target until it is empty. The
    result is the first failure of a command that ran, and none of these matters if the queue gets
    stuck. -/
def advance (queue : Queue) (target : Option EventId) (failure : Option Status)
    (store : Store κ) : m (Except Status Unit × Queue × Store κ) :=
  if target.any store.isResolved || queue.pending.isEmpty then
    match failure with
    | none => pure (.ok (), queue, store)
    | some status => pure (.error status, queue, store)
  else
    match _h : queue.next? store with
    -- nothing here is ready: only other queues could resolve what is waited for
    | none => pure (.error .invalidEventWaitList, queue, store)
    | some (command, rest) => do
      let (outcome, store) ← queue.execute command store
      advance rest target (failure.or outcome) store
termination_by queue.pending.length
decreasing_by
  have := length_next? _h
  omega

end Queue

end Offload.Host
