import Offload.Access
import Offload.Clock
import Offload.Notice
import Offload.Stamps

/-!
# Device memory and events

Queues share what their commands act on: the buffers and the events. The *store* holds both, with
the clock that stamps commands and the notices not yet passed on. Buffers and events are numbered
in the order of their creation; a number that was never given out belongs to an empty buffer or to
an event that never resolves.
-/

namespace Offload.Host

/-- The number of a buffer. -/
abbrev BufferId := Nat

/-- The number of an event. Events are numbered as their commands are submitted. -/
abbrev EventId := Nat

/-- Device memory with its access hints. -/
structure Buffer where
  /-- The hints, fixed at creation. -/
  access : Access
  /-- The elements. -/
  memory : Array Int32
  deriving Repr

/-- The content of fresh memory: every byte is `0xA5`. -/
def freshByte : UInt8 := 0xA5

/-- An element of fresh memory. -/
def freshElement : Int32 :=
  let byte := freshByte.toUInt32
  (byte <<< 24 ||| byte <<< 16 ||| byte <<< 8 ||| byte).toInt32

/-- The three kinds of commands. -/
inductive CommandKind where
  /-- An upload. -/
  | write
  /-- A kernel. -/
  | kernel
  /-- A download. -/
  | read
  deriving DecidableEq, Repr, Inhabited

/-- The word for a kind of command. -/
def CommandKind.label : CommandKind → String
  | write => "write"
  | kernel => "kernel"
  | read => "read"

/-- How far a command has come. -/
inductive EventStatus where
  /-- It has not run yet. -/
  | queued
  /-- It has run without failure. -/
  | complete (stamps : Stamps)
  /-- It has failed, or it could not run at all. -/
  | failed (status : Status)
  deriving DecidableEq, Repr, Inhabited

/-- The completion of one command. -/
structure Event where
  /-- What the command does. -/
  command : CommandKind
  /-- Its queue takes timestamps. -/
  profiling : Bool
  /-- How far it has come. -/
  status : EventStatus := .queued
  /-- What a completed download has fetched. -/
  fetched : Array Int32 := #[]
  deriving Repr, Inhabited

/-- All that queues share. -/
structure Store (κ : Type) where
  /-- The clock of all devices. -/
  clock : κ
  /-- The buffers by number. -/
  buffers : Array Buffer := #[]
  /-- The events by number. -/
  events : Array Event := #[]
  /-- The notices not yet passed on, in order. -/
  notices : List Notice := []

namespace Store

variable {κ : Type}

/-- The elements of a buffer. -/
def memory (store : Store κ) (buffer : BufferId) : Array Int32 :=
  match store.buffers[buffer]? with
  | some buffer => buffer.memory
  | none => #[]

/-- Replaces the elements of a buffer. -/
def setMemory (store : Store κ) (buffer : BufferId) (memory : Array Int32) : Store κ :=
  { store with buffers := store.buffers.modify buffer fun buffer => { buffer with memory } }

/-- How far the command of an event has come. -/
def status (store : Store κ) (event : EventId) : EventStatus :=
  match store.events[event]? with
  | some event => event.status
  | none => .queued

/-- The command of an event has run or failed. -/
def isResolved (store : Store κ) (event : EventId) : Bool :=
  match store.status event with
  | .queued => false
  | _ => true

/-- The command of an event has failed. -/
def hasFailed (store : Store κ) (event : EventId) : Bool :=
  match store.status event with
  | .failed _ => true
  | _ => false

/-- What the download of an event has fetched. -/
def fetched (store : Store κ) (event : EventId) : Array Int32 :=
  match store.events[event]? with
  | some event => event.fetched
  | none => #[]

/-- Settles an event. -/
def resolve (store : Store κ) (event : EventId) (status : EventStatus)
    (fetched : Array Int32 := #[]) : Store κ :=
  { store with events := store.events.modify event fun event => { event with status, fetched } }

/-- Adds a notice. -/
def note (store : Store κ) (notice : Notice) : Store κ :=
  { store with notices := store.notices ++ [notice] }

end Store

end Offload.Host
