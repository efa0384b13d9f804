import Offload.Run.Setup
import Offload.Vectors

/-!
# Execution

One execution binds the kernel's arguments, submits the four commands and drains the queue. Order
among the commands comes from their wait-lists alone: the kernel waits for both uploads and the
download for the kernel.

However the submission ends, the commands submitted so far are settled before the vectors of the
host may be used again (`settle`): the queue is drained, and if that fails, each of their events is
waited for. If that fails too, the vectors are given up, so that no command can still reach them.
-/

namespace Offload

/-- The events of the four commands. -/
structure StageEvents (Event : Type) where
  /-- The upload of A. -/
  writeA : Event
  /-- The upload of B. -/
  writeB : Event
  /-- The addition. -/
  kernel : Event
  /-- The download of C. -/
  readC : Event
  deriving Repr

/-- The event of a stage. -/
def StageEvents.get {Event : Type} (events : StageEvents Event) : Stage → Event
  | .writeA => events.writeA
  | .writeB => events.writeB
  | .kernel => events.kernel
  | .readC => events.readC

/-- How a submission ended. -/
structure Submission (Event : Type) where
  /-- The events handed out, in order. -/
  submitted : List Event
  /-- The four events, or why a command was refused. -/
  outcome : Except Failure (StageEvents Event)
  /-- The vectors afterwards. -/
  vectors : Vectors

/-- An execution that has come to its end. -/
structure Execution (Event : Type) where
  /-- The events of the four commands. -/
  events : StageEvents Event
  /-- Nanoseconds from the first submission to the empty queue, by the host's clock. -/
  overall : UInt64

namespace Run

variable {m : Type → Type} [Monad m] {B : Backend m} {κ : Type}

/-- Binds arguments to the kernel's parameters from a position on. -/
def bindArguments (kernel : B.handles.Kernel) :
    Nat → List (Argument B.handles.Buffer) → Run B κ (Except Failure Unit)
  | _, [] => return .ok ()
  | index, arg :: args => do
    match ← ask (.setKernelArg kernel index arg) with
    | .error status => return .error (.kernelArgument index status)
    | .ok () => bindArguments kernel (index + 1) args

/-- Submits the four commands. -/
def submit (queue : B.handles.Queue) (kernel : B.handles.Kernel) (buffers : Buffers B.handles)
    (vectors : Vectors) : Run B κ (Submission B.handles.Event) := do
  match ← ask (.enqueueWrite queue buffers.a false vectors.a []) with
  | .error status => return ⟨[], .error (.enqueue .writeA status), vectors⟩
  | .ok writeA =>
  match ← ask (.enqueueWrite queue buffers.b false vectors.b []) with
  | .error status => return ⟨[writeA], .error (.enqueue .writeB status), vectors⟩
  | .ok writeB =>
  match ← ask (.enqueueKernel queue kernel buffers.size [writeA, writeB]) with
  | .error status => return ⟨[writeA, writeB], .error (.enqueue .kernel status), vectors⟩
  | .ok added =>
  let (answer, out) ← ask (.enqueueRead queue buffers.c true vectors.c [added])
  let vectors := vectors.withOutput out
  match answer with
  | .error status => return ⟨[writeA, writeB, added], .error (.enqueue .readC status), vectors⟩
  | .ok readC =>
    return ⟨[writeA, writeB, added, readC], .ok ⟨writeA, writeB, added, readC⟩, vectors⟩

/-- Settles submitted commands: whether the queue was drained, and the vectors afterwards. -/
def settle (queue : B.handles.Queue) (submitted : List B.handles.Event) (vectors : Vectors) :
    Run B κ (Except Status Unit × Vectors) := do
  match ← ask (.finish queue) with
  | .ok () => return (.ok (), vectors)
  | .error status =>
    match ← ask (.waitEvents submitted) with
    | .ok () => return (.error status, vectors)
    | .error stuck =>
      note (.vectorsAbandoned submitted.length stuck)
      return (.error status, .empty)

/-- Executes the four commands once: the execution or why it failed, and the vectors afterwards.
    The failure of a submission outweighs that of the drain after it. -/
def execute [Clock m κ] (resources : Resources B.handles) (kernel : B.handles.Kernel)
    (buffers : Buffers B.handles) (vectors : Vectors) :
    Run B κ (Except Failure (Execution B.handles.Event) × Vectors) := do
  if maxElements < buffers.size then
    let reason := "element count " ++ toString buffers.size.toNat ++ " exceeds i32"
    return (.error (.invalidConfig reason), vectors)
  else
    let count := Int32.ofNat buffers.size.toNat
    let args : List (Argument B.handles.Buffer) :=
      [.buffer buffers.a, .buffer buffers.b, .buffer buffers.c, .int count]
    match ← bindArguments kernel 0 args with
    | .error failure => return (.error failure, vectors)
    | .ok () =>
      let start ← now
      let submission ← submit resources.queue kernel buffers vectors
      -- from here on no command can reach the vectors any more
      let (drained, vectors) ← settle resources.queue submission.submitted submission.vectors
      match submission.outcome, drained with
      | .error failure, .error status =>
        note (.drainFailed status)
        return (.error failure, vectors)
      | .error failure, .ok () => return (.error failure, vectors)
      | .ok _, .error status => return (.error (.drain status), vectors)
      | .ok events, .ok () =>
        let stop ← now
        note (.drained (stop - start))
        return (.ok ⟨events, stop - start⟩, vectors)

end Run

end Offload
