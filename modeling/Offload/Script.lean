import Offload.Host.Backend

/-!
# Scripted backends

A scripted backend passes every request on to the host backend, and a script decides where the
answer differs: calls that fail although nothing is wrong, timestamps that are fixed in advance,
downloads whose data are changed, and buffers that are smaller than they seem. It also keeps a
trace of all calls with their results. Events are numbered in the order in which they are handed
out to the caller.
-/

namespace Offload

/-- The word for a request in traces. -/
def Request.Name.label : Request.Name → String
  | platforms => "platforms"
  | createContext => "create_context"
  | createQueue => "create_queue"
  | createBuffer => "create_buffer"
  | createProgram => "create_program"
  | buildProgram => "build_program"
  | buildLog => "build_log"
  | createKernel => "create_kernel"
  | setKernelArg => "set_kernel_arg"
  | enqueueWrite => "enqueue_write"
  | enqueueKernel => "enqueue_kernel"
  | enqueueRead => "enqueue_read"
  | finish => "finish"
  | waitEvents => "wait_events"
  | profiling => "profiling"

/-- All names of requests. -/
def Request.Name.all : List Request.Name :=
  [platforms, createContext, createQueue, createBuffer, createProgram, buildProgram, buildLog,
   createKernel, setKernelArg, enqueueWrite, enqueueKernel, enqueueRead, finish, waitEvents,
   profiling]

/-- A call that fails by the script. -/
structure Fault where
  /-- The kind of call. -/
  call : Request.Name
  /-- Which one of this kind, counted from zero. -/
  nth : Nat := 0
  /-- The status it reports. -/
  status : Status
  /-- The host backend performs the call all the same. -/
  after : Bool := false
  deriving Repr

/-- Data that overwrite what a download has fetched. -/
structure Poke where
  /-- Which one of the downloads that succeed, counted from zero. -/
  nth : Nat
  /-- The data for the first elements. -/
  data : Array Int32
  deriving Repr

/-- What a scripted backend does otherwise than the host backend. -/
structure Script where
  /-- The calls that fail. Of two faults for one call the first counts. -/
  faults : List Fault := []
  /-- The timestamps by event number. -/
  stamps : List Stamps := []
  /-- The downloads that are changed. -/
  pokes : List Poke := []
  /-- The largest number of elements that a buffer really gets. -/
  allocCap : Option UInt64 := none

namespace Script

/-- An event: its number among those handed out, and the event of the host backend. -/
structure Event where
  /-- The number. -/
  number : Nat
  /-- The event behind it. -/
  event : Host.EventId
  deriving Repr

/-- What a scripted backend keeps. -/
structure State (κ : Type) where
  /-- The state of the host backend. -/
  host : Host.State κ
  /-- The calls so far, the latest first. -/
  calls : List Request.Name := []
  /-- How many events have been handed out. -/
  issued : Nat := 0
  /-- How many downloads the host backend has completed. -/
  reads : Nat := 0
  /-- The trace, one line a call. -/
  trace : Array String := #[]

/-- The fault for the next call of a kind, after the given calls. -/
def fault? (script : Script) (call : Request.Name) (calls : List Request.Name) : Option Fault :=
  script.faults.find? fun fault => fault.call = call ∧ fault.nth = calls.count call

/-- The timestamps of an event: those of the script, or beyond it a series of ever longer
    commands, one started every millisecond. -/
def stampsOf (script : Script) (number : Nat) : Stamps :=
  script.stamps.getD number
    ⟨UInt64.ofNat (1000000 * number), UInt64.ofNat (1000000 * number + 123457 * (number + 1))⟩

/-- Changes what the download of a number has fetched. -/
def poke {n : Nat} (script : Script) (nth : Nat) (out : Vector Int32 n) : Vector Int32 n :=
  (script.pokes.filter fun poke => poke.nth = nth).foldl
    (fun out poke => Vector.ofFn fun i => poke.data[i.val]?.getD out[i]) out

/-- The number of elements that a buffer really gets. -/
def capped (script : Script) (size : UInt64) : UInt64 :=
  match script.allocCap with
  | some cap => min size cap
  | none => size

variable {κ : Type}

/-- Adds a line to the trace. -/
def State.traced (state : State κ) (call : Request.Name) (detail result : String) : State κ :=
  let line := if detail.isEmpty then call.label else call.label ++ " " ++ detail
  { state with trace := state.trace.push (line ++ " -> " ++ result) }

variable {m : Type → Type} [Monad m]

/-- One call under a script: the fault for it, if any, else what `perform` answers. The side
    result is what the caller gets beside the answer, and `missed` stands for it where nothing is
    performed. -/
def call {α β : Type} (script : Script) (name : Request.Name) (detail : String)
    (result : α → String) (missed : β) (state : State κ)
    (perform : State κ → m ((Except Status α × β) × State κ)) :
    m ((Except Status α × β) × State κ) := do
  let fault? := script.fault? name state.calls
  let state := { state with calls := name :: state.calls }
  let ((answer, side), state) ←
    match fault? with
    | none => perform state
    | some fault =>
      if fault.after then do
        -- what happened stays, only the caller does not hear of it
        let ((_, side), state) ← perform state
        pure ((.error fault.status, side), state)
      else pure ((.error fault.status, missed), state)
  match answer with
  | .ok a => return ((.ok a, side), state.traced name detail (result a))
  | .error status => return ((.error status, side), state.traced name detail status.digits)

/-- A call with nothing beside its answer. -/
def plainCall {α : Type} (script : Script) (name : Request.Name) (detail : String)
    (result : α → String) (perform : Host.State κ → m (Except Status α × Host.State κ))
    (state : State κ) : m (Except Status α × State κ) := do
  let ((answer, _), state) ← script.call name detail result () state fun state => do
    let (answer, host) ← perform state.host
    return ((answer, ()), { state with host })
  return (answer, state)

/-- Hands out the event of a call that was answered with one. -/
def issue (state : State κ) : Except Status Host.EventId → Except Status Event × State κ
  | .ok event => (.ok ⟨state.issued, event⟩, { state with issued := state.issued + 1 })
  | .error status => (.error status, state)

/-- A list of event numbers. -/
def numbers (events : List Event) : String :=
  "[" ++ ",".intercalate (events.map fun event => toString event.number) ++ "]"

/-- The size of the data of a transfer and what it waits for. -/
def transferDetail (blocking : Bool) (size : Nat) (wait : List Event) : String :=
  "blocking=" ++ toString blocking ++ " len=" ++ toString size ++ " wait=" ++ numbers wait

/-- Handles as those of the host backend, but with numbered events. -/
abbrev handles : Handles := { Host.handles with Event := Event }

/-- The reply that goes with an answer and the state after it. -/
def reply {request : Request handles} (result : request.Answer × State κ) :
    Reply request (State κ) :=
  let (notices, host) := result.2.host.takeNotices
  ⟨result.1, notices, { result.2 with host }⟩

/-- The result of a call without a value. -/
def done {α : Type} (_ : α) : String := "ok"

variable [Clock m κ]

/-- Answers a download. -/
def read (script : Script) (queue : Host.QueueId) (buffer : Host.BufferId) (blocking : Bool)
    (out : Array Int32) (wait : List Event) (state : State κ) :
    m ((Except Status Event × Vector Int32 out.size) × State κ) := do
  let name := "e" ++ toString state.issued
  let detail := transferDetail blocking out.size wait
  let ((answer, out), state) ←
    script.call .enqueueRead detail (fun _ => name) out.toVector
      state fun state => do
        let ((answer, out), host) ←
          state.host.enqueueRead queue buffer out (wait.map (·.event))
        match answer with
        | .ok event =>
          return ((.ok event, script.poke state.reads out),
            { state with host, reads := state.reads + 1 })
        | .error status => return ((.error status, out), { state with host })
  let (answer, state) := issue state answer
  return ((answer, out), state)

/-- Answers a request under a script. -/
def answer (script : Script) (request : Request handles) (state : State κ) :
    m (Reply request (State κ)) :=
  match request with
  | .platforms =>
    reply <$> script.plainCall .platforms "" (fun entries => toString entries.length)
      (fun host => pure (host.list, host)) state
  | .createContext device =>
    reply <$> script.plainCall .createContext "" done
      (fun host => pure (Host.State.createContext device, host)) state
  | .createQueue context device profiling =>
    reply <$> script.plainCall .createQueue ("profiling=" ++ toString profiling) done
      (fun host => pure (host.createQueue context device profiling)) state
  | .createBuffer context _ access size =>
    reply <$> script.plainCall .createBuffer (access.label ++ " len=" ++ toString size.toNat) done
      (fun host => pure (host.createBuffer context access (script.capped size))) state
  | .createProgram _ source =>
    reply <$> script.plainCall .createProgram ("bytes=" ++ toString source.utf8ByteSize) done
      (fun host => pure (host.createProgram source)) state
  | .buildProgram program device =>
    reply <$> script.plainCall .buildProgram "" done
      (fun host => pure (host.buildProgram program device)) state
  | .buildLog program device =>
    reply <$> script.plainCall .buildLog "" done
      (fun host => pure (host.buildLog program device, host)) state
  | .createKernel program _ name params =>
    let letters := String.ofList (params.map ParamKind.letter)
    reply <$> script.plainCall .createKernel (name ++ " params=" ++ letters) done
      (fun host => pure (host.createKernel program name params)) state
  | .setKernelArg kernel index arg =>
    let shown :=
      match arg with
      | .buffer buffer => "buffer(" ++ toString (state.host.store.memory buffer).size ++ ")"
      | .int value => "int(" ++ toString value.toInt ++ ")"
    reply <$> script.plainCall .setKernelArg (toString index ++ " " ++ shown) done
      (fun host => pure (host.setKernelArg kernel index arg)) state
  | .enqueueWrite queue buffer blocking data wait => do
    let name := "e" ++ toString state.issued
    let (answer, state) ←
      script.plainCall .enqueueWrite (transferDetail blocking data.size wait) (fun _ => name)
        (fun host => host.enqueueWrite queue buffer blocking data (wait.map (·.event))) state
    return reply (issue state answer)
  | .enqueueKernel queue kernel size wait => do
    let name := "e" ++ toString state.issued
    let detail := "size=" ++ toString size.toNat ++ " wait=" ++ numbers wait
    let (answer, state) ←
      script.plainCall .enqueueKernel detail (fun _ => name)
        (fun host => pure (host.enqueueKernel queue kernel size (wait.map (·.event)))) state
    return reply (issue state answer)
  | .enqueueRead queue buffer blocking out wait =>
    reply <$> script.read queue buffer blocking out wait state
  | .finish queue =>
    reply <$> script.plainCall .finish ("pending=" ++ toString (state.host.pendingCount queue)) done
      (fun host => host.finish queue) state
  | .waitEvents events =>
    reply <$> script.plainCall .waitEvents (numbers events) done
      (fun host => pure (host.waitEvents (events.map (·.event)), host)) state
  | .profiling event =>
    let shown (stamps : Stamps) := toString stamps.start.toNat ++ ".." ++ toString stamps.stop.toNat
    let scripted (real : Stamps) : Stamps :=
      let stamps := script.stampsOf event.number
      if real.stop < real.start then stamps.reversed else stamps
    reply <$> script.plainCall .profiling ("e" ++ toString event.number) shown
      (fun host => pure ((host.profiling event.event).map scripted, host)) state

end Script

/-- The host backend under a script. -/
def Script.backend (script : Script) (m : Type → Type) (κ : Type) [Monad m] [Clock m κ] :
    Backend m where
  handles := Script.handles
  State := Script.State κ
  name := "host"
  answer := script.answer

end Offload
