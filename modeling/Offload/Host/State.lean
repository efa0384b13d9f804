import Offload.Host.Program

/-!
# The state of the host backend

The host backend keeps the platforms that it lists, the store, and the queues, programs and kernels
that were made, by number in the order of their creation. Each request is one function on the
state. A request is checked in full before anything happens, and one that is refused changes
nothing. Numbers that were never given out are refused like invalid handles.

A command is first admitted, which fixes its operation with all data (`State.admitWrite`,
`State.admitKernel`, `State.admitRead`), then submitted to its queue (`State.submit`), and, if the
caller waits for it, the queue is driven until it has resolved (`State.waitFor`).
-/

namespace Offload.Host

/-- The number of a queue. -/
abbrev QueueId := Nat

/-- The number of a program. -/
abbrev ProgramId := Nat

/-- The number of a kernel. -/
abbrev KernelId := Nat

/-- All that the host backend keeps. -/
structure State (κ : Type) where
  /-- The platforms in order. -/
  platforms : List Platform := []
  /-- The status with which listing the platforms fails, if it does. -/
  enumerationFault : Option Status := none
  /-- What the queues share. -/
  store : Store κ
  /-- The queues by number. -/
  queues : Array Queue := #[]
  /-- The programs by number. -/
  programs : Array Program := #[]
  /-- The kernels by number. -/
  kernels : Array Kernel := #[]

namespace State

variable {κ : Type}

/-- A state without any object. -/
def initial (clock : κ) (platforms : List Platform := []) : State κ where
  platforms := platforms
  store := { clock := clock }

/-! ### Listings and objects -/

/-- A platform as listed. -/
def listing (platform : Platform) : PlatformEntry Device where
  name := platform.name
  version := platform.version
  devices :=
    match platform.queryFault with
    | some status => .error status
    | none => .ok (platform.devices.map fun device => ⟨device.name, device.kind, device⟩)

/-- Lists the platforms. -/
def list (state : State κ) : Except Status (List (PlatformEntry Device)) :=
  match state.enumerationFault with
  | some status => .error status
  | none => .ok (state.platforms.map listing)

/-- Makes a context on a device. -/
def createContext (device : Device) : Except Status Context :=
  match device.contextFault with
  | some status => .error status
  | none => .ok ⟨device⟩

/-- Makes a queue. The device must have the name of the context's device. -/
def createQueue (state : State κ) (context : Context) (device : Device) (profiling : Bool) :
    Except Status QueueId × State κ :=
  if context.device.name ≠ device.name then (.error .invalidDevice, state)
  else
    match device.queueFault with
    | some status => (.error status, state)
    | none =>
      let queue : Queue :=
        { order := device.order, profiling := profiling, backwardsClock := device.backwardsClock }
      (.ok state.queues.size, { state with queues := state.queues.push queue })

/-- The size of a buffer in bytes is one that can be counted and that the device allows. -/
def allows (device : Device) (size : UInt64) : Bool :=
  4 * size.toNat < UInt64.size && device.maxAllocBytes.all fun limit => byteCount size ≤ limit

/-- Allocates a buffer. -/
def createBuffer (state : State κ) (context : Context) (access : Access) (size : UInt64) :
    Except Status BufferId × State κ :=
  if allows context.device size then
    let buffer : Buffer := ⟨access, Array.replicate size.toNat freshElement⟩
    (.ok state.store.buffers.size,
      { state with store := { state.store with buffers := state.store.buffers.push buffer } })
  else (.error .invalidBufferSize, state)

/-- Takes the text of a program, which must not be blank. -/
def createProgram (state : State κ) (source : String) : Except Status ProgramId × State κ :=
  if Text.isBlankText source then (.error .invalidValue, state)
  else
    (.ok state.programs.size, { state with programs := state.programs.push { source := source } })

/-- Builds a program for a device. -/
def buildProgram (state : State κ) (program : ProgramId) (device : Device) :
    Except Status Unit × State κ :=
  match state.programs[program]? with
  | none => (.error .invalidProgram, state)
  | some old =>
    let (outcome, new) := old.build device
    let state := { state with programs := state.programs.setIfInBounds program new }
    match outcome with
    | .error status => (.error status, state)
    | .ok declared =>
      let notice := Notice.kernelsDeclared declared.length device.name
      (.ok (), { state with store := state.store.note notice })

/-- The log of the last build of a program for a device. -/
def buildLog (state : State κ) (program : ProgramId) (device : Device) : Except Status String :=
  match state.programs[program]? with
  | none => .error .invalidProgram
  | some program => .ok (program.log device)

/-- Makes a kernel without arguments. -/
def createKernel (state : State κ) (program : ProgramId) (name : String)
    (params : List ParamKind) : Except Status KernelId × State κ :=
  match state.programs[program]? with
  | none => (.error .invalidProgram, state)
  | some program =>
    match program.checkKernel name params with
    | .error status => (.error status, state)
    | .ok () => (.ok state.kernels.size, { state with kernels := state.kernels.push {} })

/-- The buffer that an argument names exists, if it names one. -/
def hasBuffer (state : State κ) : Argument BufferId → Bool
  | .buffer buffer => buffer < state.store.buffers.size
  | .int _ => true

/-- Binds an argument of a kernel. -/
def setKernelArg (state : State κ) (kernel : KernelId) (index : Nat) (arg : Argument BufferId) :
    Except Status Unit × State κ :=
  match state.kernels[kernel]? with
  | none => (.error .invalidArgIndex, state)
  | some old =>
    match old.bind index arg with
    | .error status => (.error status, state)
    | .ok new =>
      if state.hasBuffer arg then
        (.ok (), { state with kernels := state.kernels.setIfInBounds kernel new })
      else (.error .invalidMemObject, state)

/-! ### Admission -/

/-- The queue and all events of the wait-list exist. -/
def checkSubmission (state : State κ) (queue : QueueId) (wait : List EventId) :
    Except Status Unit :=
  if state.queues.size ≤ queue then .error .invalidCommandQueue
  else if wait.all (· < state.store.events.size) then .ok ()
  else .error .invalidEventWaitList

/-- Admits an upload: the host may write the buffer, and the data fit. -/
def admitWrite (state : State κ) (queue : QueueId) (buffer : BufferId) (data : Array Int32)
    (wait : List EventId) : Except Status Operation := do
  state.checkSubmission queue wait
  match state.store.buffers[buffer]? with
  | none => .error .invalidMemObject
  | some target =>
    if !target.access.hostCanWrite then .error .invalidOperation
    else if target.memory.size < data.size then .error .invalidValue
    else .ok (.write buffer data)

/-- Devices may write the buffer in the place of the output. -/
def checkOutput (state : State κ) (args : List Bound) : Except Status Unit :=
  match args[VectorAdd.output]? with
  | some (.buffer buffer) =>
    match state.store.buffers[buffer]? with
    | none => .error .invalidMemObject
    | some output => if output.access.deviceCanWrite then .ok () else .error .invalidOperation
  | _ => .ok ()

/-- Admits a kernel: all its arguments are bound, and devices may write the output. -/
def admitKernel (state : State κ) (queue : QueueId) (kernel : KernelId) (size : UInt64)
    (wait : List EventId) : Except Status Operation := do
  state.checkSubmission queue wait
  match state.kernels[kernel]?.bind Kernel.arguments? with
  | none => .error .invalidKernelArgs
  | some args =>
    state.checkOutput args
    return .kernel size args

/-- Admits a download: the host may read the buffer, and it has so many elements. -/
def admitRead (state : State κ) (queue : QueueId) (buffer : BufferId) (count : Nat)
    (wait : List EventId) : Except Status Operation := do
  state.checkSubmission queue wait
  match state.store.buffers[buffer]? with
  | none => .error .invalidMemObject
  | some source =>
    if !source.access.hostCanRead then .error .invalidOperation
    else if source.memory.size < count then .error .invalidValue
    else .ok (.read buffer count)

/-! ### Submission and progress -/

/-- The queue takes timestamps. -/
def takesStamps (state : State κ) (queue : QueueId) : Bool :=
  state.queues[queue]?.any (·.profiling)

/-- Appends a command to the pending list of a queue. -/
def submit (state : State κ) (queue : QueueId) (operation : Operation) (wait : List EventId) :
    EventId × State κ :=
  let event := state.store.events.size
  let entry : Event := { command := operation.kind, profiling := state.takesStamps queue }
  let command : Command := ⟨operation, wait, event⟩
  (event,
    { state with
      store := { state.store with events := state.store.events.push entry }
      queues := state.queues.modify queue fun q => { q with pending := q.pending ++ [command] } })

variable {m : Type → Type} [Monad m] [Clock m κ]

/-- Drives a queue until the target has resolved, or until it is empty. -/
def drive (state : State κ) (queue : QueueId) (target : Option EventId) :
    m (Except Status Unit × State κ) :=
  match state.queues[queue]? with
  | none => pure (.error .invalidCommandQueue, state)
  | some q => do
    let (outcome, q, store) ← q.advance target none state.store
    return (outcome, { state with store, queues := state.queues.setIfInBounds queue q })

/-- Waits for one command of a queue: its own outcome counts, whatever else ran. -/
def waitFor (state : State κ) (queue : QueueId) (event : EventId) :
    m (Except Status Unit × State κ) := do
  let (outcome, state) ← state.drive queue (some event)
  -- other commands that ran on the way may have failed: that is not this one's outcome
  match state.store.status event with
  | .complete _ => return (.ok (), state)
  | .failed status => return (.error status, state)
  | .queued =>
    match outcome with
    | .ok () => return (.error .invalidEventWaitList, state)
    | .error status => return (.error status, state)

/-- Submits an upload, and waits for it if it is blocking. -/
def enqueueWrite (state : State κ) (queue : QueueId) (buffer : BufferId) (blocking : Bool)
    (data : Array Int32) (wait : List EventId) : m (Except Status EventId × State κ) :=
  match state.admitWrite queue buffer data wait with
  | .error status => pure (.error status, state)
  | .ok operation => do
    let (event, state) := state.submit queue operation wait
    if blocking then
      let (outcome, state) ← state.waitFor queue event
      return (outcome.map fun () => event, state)
    else return (.ok event, state)

/-- Submits a kernel. -/
def enqueueKernel (state : State κ) (queue : QueueId) (kernel : KernelId) (size : UInt64)
    (wait : List EventId) : Except Status EventId × State κ :=
  match state.admitKernel queue kernel size wait with
  | .error status => (.error status, state)
  | .ok operation =>
    let (event, state) := state.submit queue operation wait
    (.ok event, state)

/-- The array into which a download puts what it has fetched. -/
def deliver (out fetched : Array Int32) : Vector Int32 out.size :=
  if h : fetched.size = out.size then ⟨fetched, h⟩ else out.toVector

/-- Submits a download and waits for it. The array is filled only if it succeeds. -/
def enqueueRead (state : State κ) (queue : QueueId) (buffer : BufferId) (out : Array Int32)
    (wait : List EventId) :
    m ((Except Status EventId × Vector Int32 out.size) × State κ) :=
  match state.admitRead queue buffer out.size wait with
  | .error status => pure ((.error status, out.toVector), state)
  | .ok operation => do
    let (event, state) := state.submit queue operation wait
    let (outcome, state) ← state.waitFor queue event
    match outcome with
    | .error status => return ((.error status, out.toVector), state)
    | .ok () => return ((.ok event, deliver out (state.store.fetched event)), state)

/-- Runs all commands of a queue. -/
def finish (state : State κ) (queue : QueueId) : m (Except Status Unit × State κ) :=
  state.drive queue none

/-- Whether all events have completed. Queues do not move on meanwhile: a queued event here
    belongs to a queue that is stuck. The first event that has not completed counts. -/
def waitEvents (state : State κ) : List EventId → Except Status Unit
  | [] => .ok ()
  | event :: events =>
    match state.store.status event with
    | .complete _ => waitEvents state events
    | .failed _ => .error .execStatusErrorForEventsInWaitList
    | .queued => .error .invalidEventWaitList

/-- The timestamps of an event: there are some if its queue takes them and it has completed. -/
def profiling (state : State κ) (event : EventId) : Except Status Stamps :=
  match state.store.events[event]? with
  | some { profiling := true, status := .complete stamps, .. } => .ok stamps
  | _ => .error .profilingInfoNotAvailable

/-- How many commands of a queue have not run yet. -/
def pendingCount (state : State κ) (queue : QueueId) : Nat :=
  match state.queues[queue]? with
  | some queue => queue.pending.length
  | none => 0

/-- Takes the notices that have gathered. -/
def takeNotices (state : State κ) : List Notice × State κ :=
  (state.store.notices, { state with store := { state.store with notices := [] } })

end State

end Offload.Host
