import Offload.Run.Basic

/-!
# Setting up a run

Before a run a device gives out a context with a queue that takes timestamps (`acquire`), builds the
program and makes the kernel (`build`), and allocates the three buffers (`allocate`).
-/

namespace Offload

/-- The context and the queue of a run. -/
structure Resources (H : Handles) where
  /-- The context. -/
  context : H.Context
  /-- The queue. -/
  queue : H.Queue

/-- The buffers of a run, all of one declared size. -/
structure Buffers (H : Handles) where
  /-- The first input. -/
  a : H.Buffer
  /-- The second input. -/
  b : H.Buffer
  /-- The output. -/
  c : H.Buffer
  /-- How many elements were asked for. -/
  size : UInt64

namespace Run

variable {m : Type → Type} [Monad m] {B : Backend m} {κ : Type}

/-- Makes the context and then the queue. -/
def acquire (device : B.handles.Device) : Attempt B κ (Resources B.handles) := do
  let context ← orFail (ask (.createContext device)) .contextCreation
  let queue ← orFail (ask (.createQueue context device true)) .queueCreation
  always (note .resourcesReady)
  return ⟨context, queue⟩

/-- What stands for the build log where that cannot be had either. -/
def missingLog (status : Status) : String :=
  "<build log unavailable: status " ++ status.digits ++ ">"

/-- Takes the program text and builds it. The log of a failed build goes into the failure. -/
def compile (resources : Resources B.handles) (device : B.handles.Device) (source : String) :
    Attempt B κ B.handles.Program := do
  let program ← orFail (ask (.createProgram resources.context source)) (.build · "")
  match ← always (ask (.buildProgram program device)) with
  | .ok () =>
    always (note .programBuilt)
    return program
  | .error status =>
    let log :=
      match ← always (ask (.buildLog program device)) with
      | .ok log => log
      | .error status => missingLog status
    always (note (.buildFailed log))
    throw (.build status log)

/-- Builds the program and makes the kernel. -/
def build (resources : Resources B.handles) (device : B.handles.Device)
    (source entryPoint : String) : Attempt B κ B.handles.Kernel := do
  let program ← compile resources device source
  orFail (ask (.createKernel program resources.queue entryPoint vectorAddParams))
    (.entryPoint entryPoint)

/-- Allocates the buffers in order. -/
def allocate (resources : Resources B.handles) (size : UInt64) :
    Attempt B κ (Buffers B.handles) := do
  let buffer (role : Role) : Attempt B κ B.handles.Buffer :=
    orFail (ask (.createBuffer resources.context resources.queue role.access size))
      (.allocation role)
  let a ← buffer .a
  let b ← buffer .b
  let c ← buffer .c
  always (note (.buffersAllocated (byteCount size)))
  return ⟨a, b, c, size⟩

end Run

end Offload
