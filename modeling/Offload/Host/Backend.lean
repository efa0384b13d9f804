import Offload.Host.State

/-!
# The host backend

The functions on the state of the host, as a backend: every request goes to one of them, and the
notices that have gathered meanwhile go with the answer.
-/

namespace Offload.Host

/-- Handles of the host backend. Devices and contexts stand for themselves, all else is numbered. -/
abbrev handles : Handles where
  Device := Device
  Context := Context
  Queue := QueueId
  Buffer := BufferId
  Program := ProgramId
  Kernel := KernelId
  Event := EventId

variable {κ : Type}

/-- The reply that goes with an answer and the state after it. -/
def reply {request : Request handles} (answer : request.Answer) (state : State κ) :
    Reply request (State κ) :=
  let (notices, state) := state.takeNotices
  ⟨answer, notices, state⟩

variable {m : Type → Type} [Monad m] [Clock m κ]

/-- Answers a request. -/
def answer (request : Request handles) (state : State κ) : m (Reply request (State κ)) :=
  match request with
  | .platforms => pure (reply state.list state)
  | .createContext device => pure (reply (State.createContext device) state)
  | .createQueue context device profiling =>
    let (answer, state) := state.createQueue context device profiling
    pure (reply answer state)
  | .createBuffer context _ access size =>
    let (answer, state) := state.createBuffer context access size
    pure (reply answer state)
  | .createProgram _ source =>
    let (answer, state) := state.createProgram source
    pure (reply answer state)
  | .buildProgram program device =>
    let (answer, state) := state.buildProgram program device
    pure (reply answer state)
  | .buildLog program device => pure (reply (state.buildLog program device) state)
  | .createKernel program _ name params =>
    let (answer, state) := state.createKernel program name params
    pure (reply answer state)
  | .setKernelArg kernel index arg =>
    let (answer, state) := state.setKernelArg kernel index arg
    pure (reply answer state)
  | .enqueueWrite queue buffer blocking data wait => do
    let (answer, state) ← state.enqueueWrite queue buffer blocking data wait
    return reply answer state
  | .enqueueKernel queue kernel size wait =>
    let (answer, state) := state.enqueueKernel queue kernel size wait
    pure (reply answer state)
  | .enqueueRead queue buffer _ out wait => do
    let (answer, state) ← state.enqueueRead queue buffer out wait
    return reply answer state
  | .finish queue => do
    let (answer, state) ← state.finish queue
    return reply answer state
  | .waitEvents events => pure (reply (state.waitEvents events) state)
  | .profiling event => pure (reply (state.profiling event) state)

/-- The host backend with a clock of some kind. -/
def backend (m : Type → Type) (κ : Type) [Monad m] [Clock m κ] : Backend m where
  handles := handles
  State := State κ
  name := "host"
  answer := answer

end Offload.Host
