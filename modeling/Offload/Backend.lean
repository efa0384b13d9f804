import Offload.Config.Basic
import Offload.Notice
import Offload.Stamps

/-!
# Compute backends

A backend gives access to devices: it lists them, makes contexts, queues, buffers and programs,
takes commands and says when they are done. All this goes through one type of requests. `Request`
says what can be asked, `Request.Answer` what kind of answer each request has, and a `Backend`
answers requests one after another, from a state of its own.

Everything a backend makes is known to its users as a handle of a type that the backend chooses
(`Handles`), so that a program for devices is written once, for every backend.
-/

namespace Offload

/-- The types of handles of a backend. -/
structure Handles where
  /-- A device. -/
  Device : Type
  /-- The scope in which the objects of one device live. -/
  Context : Type
  /-- A queue of commands. -/
  Queue : Type
  /-- A piece of device memory. -/
  Buffer : Type
  /-- A program, built or not. -/
  Program : Type
  /-- A kernel of a built program, with its arguments. -/
  Kernel : Type
  /-- The completion of one command. -/
  Event : Type

/-- A device as a listing shows it. -/
structure DeviceEntry (Device : Type) where
  /-- The name of the device. -/
  name : String
  /-- Its class. -/
  kind : DeviceClass
  /-- The device itself. -/
  handle : Device

/-- A platform as a listing shows it. Its devices may fail to be listed. -/
structure PlatformEntry (Device : Type) where
  /-- The name of the platform. -/
  name : String
  /-- The version it reports. -/
  version : String
  /-- Its devices in order. -/
  devices : Except Status (List (DeviceEntry Device))

/-- The kind of a kernel parameter. -/
inductive ParamKind where
  /-- A buffer of 32-bit integers. -/
  | buffer
  /-- A single 32-bit integer. -/
  | int
  deriving DecidableEq, Repr

/-- The letter of a parameter kind. -/
def ParamKind.letter : ParamKind → Char
  | buffer => 'B'
  | int => 'I'

/-- The parameters of the vector addition: A, B, C and the element count. -/
def vectorAddParams : List ParamKind := [.buffer, .buffer, .buffer, .int]

/-- A value for a kernel parameter. -/
inductive Argument (Buffer : Type) where
  /-- A buffer. -/
  | buffer (buffer : Buffer)
  /-- An integer. -/
  | int (value : Int32)
  deriving Repr

/-- What a backend can be asked. -/
inductive Request (H : Handles) where
  /-- List the platforms. -/
  | platforms
  /-- Make a context on a device. -/
  | createContext (device : H.Device)
  /-- Make a queue in a context, with timestamps or without. -/
  | createQueue (context : H.Context) (device : H.Device) (profiling : Bool)
  /-- Allocate so many elements of device memory. -/
  | createBuffer (context : H.Context) (queue : H.Queue) (access : Access) (size : UInt64)
  /-- Take the text of a program. -/
  | createProgram (context : H.Context) (source : String)
  /-- Build a program for a device. -/
  | buildProgram (program : H.Program) (device : H.Device)
  /-- What the last build of a program for a device reported. -/
  | buildLog (program : H.Program) (device : H.Device)
  /-- Make a kernel of a built program. -/
  | createKernel (program : H.Program) (queue : H.Queue) (name : String) (params : List ParamKind)
  /-- Bind an argument to a parameter of a kernel. -/
  | setKernelArg (kernel : H.Kernel) (index : Nat) (arg : Argument H.Buffer)
  /-- Submit an upload into the first elements of a buffer. -/
  | enqueueWrite (queue : H.Queue) (buffer : H.Buffer) (blocking : Bool) (data : Array Int32)
      (wait : List H.Event)
  /-- Submit a kernel with so many work items. -/
  | enqueueKernel (queue : H.Queue) (kernel : H.Kernel) (size : UInt64) (wait : List H.Event)
  /-- Submit a download of the first elements of a buffer, as many as the given array has. -/
  | enqueueRead (queue : H.Queue) (buffer : H.Buffer) (blocking : Bool) (out : Array Int32)
      (wait : List H.Event)
  /-- Wait until a queue is empty. -/
  | finish (queue : H.Queue)
  /-- Wait until events have completed. -/
  | waitEvents (events : List H.Event)
  /-- The timestamps of a completed command. -/
  | profiling (event : H.Event)

namespace Request

variable {H : Handles}

/-- The kind of answer that a request has. Every request can be refused with a status. A download
    also answers with the array, which may have been filled even where a status is reported. -/
abbrev Answer : Request H → Type
  | platforms => Except Status (List (PlatformEntry H.Device))
  | createContext _ => Except Status H.Context
  | createQueue _ _ _ => Except Status H.Queue
  | createBuffer _ _ _ _ => Except Status H.Buffer
  | createProgram _ _ => Except Status H.Program
  | buildProgram _ _ => Except Status Unit
  | buildLog _ _ => Except Status String
  | createKernel _ _ _ _ => Except Status H.Kernel
  | setKernelArg _ _ _ => Except Status Unit
  | enqueueWrite _ _ _ _ _ => Except Status H.Event
  | enqueueKernel _ _ _ _ => Except Status H.Event
  | enqueueRead _ _ _ out _ => Except Status H.Event × Vector Int32 out.size
  | finish _ => Except Status Unit
  | waitEvents _ => Except Status Unit
  | profiling _ => Except Status Stamps

/-- What each request is called in traces. -/
inductive Name where
  /-- See `Request.platforms`. -/
  | platforms
  /-- See `Request.createContext`. -/
  | createContext
  /-- See `Request.createQueue`. -/
  | createQueue
  /-- See `Request.createBuffer`. -/
  | createBuffer
  /-- See `Request.createProgram`. -/
  | createProgram
  /-- See `Request.buildProgram`. -/
  | buildProgram
  /-- See `Request.buildLog`. -/
  | buildLog
  /-- See `Request.createKernel`. -/
  | createKernel
  /-- See `Request.setKernelArg`. -/
  | setKernelArg
  /-- See `Request.enqueueWrite`. -/
  | enqueueWrite
  /-- See `Request.enqueueKernel`. -/
  | enqueueKernel
  /-- See `Request.enqueueRead`. -/
  | enqueueRead
  /-- See `Request.finish`. -/
  | finish
  /-- See `Request.waitEvents`. -/
  | waitEvents
  /-- See `Request.profiling`. -/
  | profiling
  deriving DecidableEq, Repr

end Request

/-- What a backend returns for a request. -/
structure Reply {H : Handles} (request : Request H) (State : Type) where
  /-- The answer. -/
  answer : request.Answer
  /-- What the backend reports to the log meanwhile. -/
  notices : List Notice
  /-- The state of the backend afterwards. -/
  state : State

/-- A backend answers requests, each from the state that the last one left. -/
structure Backend (m : Type → Type) where
  /-- The types of its handles. -/
  handles : Handles
  /-- All that the backend keeps. -/
  State : Type
  /-- What the backend is called. -/
  name : String
  /-- Answers a request. -/
  answer : (request : Request handles) → State → m (Reply request State)

end Offload
