import Offload.Host.State

/-!
# Descriptions of queues and kernels

For inspection a queue or a kernel is written out as a record in one line. The memory of a bound
buffer and a bound integer are shown as bytes, least significant byte first.
-/

namespace Offload.Host

/-- A record with named fields. -/
def describeRecord (name : String) (fields : List (String × String)) : String :=
  name ++ " \x7b " ++ ", ".intercalate (fields.map fun field => field.1 ++ ": " ++ field.2)
    ++ " \x7d"

/-- A list in square brackets. -/
def describeList (items : List String) : String :=
  "[" ++ ", ".intercalate items ++ "]"

/-- A value that may be missing. -/
def describeOption (value : Option String) : String :=
  match value with
  | none => "None"
  | some text => "Some(" ++ text ++ ")"

/-- A sequence of bytes. -/
def describeBytes (bytes : List UInt8) : String :=
  describeList (bytes.map fun byte => toString byte.toNat)

/-- A buffer with its hints and its memory. -/
def Buffer.describe (buffer : Buffer) : String :=
  let access := describeRecord "MemFlags"
    [("device", buffer.access.device.label), ("host", buffer.access.host.label)]
  let bytes := buffer.memory.toList.flatMap elementBytes
  let memory := describeRecord "RefCell" [("value", describeBytes bytes)]
  describeRecord "HostBuffer" [("flags", access), ("memory", memory)]

/-- An entry of an argument vector. -/
def Bound.describe {κ : Type} (store : Store κ) : Bound → String
  | buffer id => "Buffer(" ++ (store.buffers[id]?.map Buffer.describe).getD "" ++ ")"
  | scalar bytes => "Scalar(" ++ describeBytes bytes ++ ")"

/-- A kernel with its argument vector. -/
def Kernel.describe {κ : Type} (kernel : Kernel) (store : Store κ) : String :=
  let args := kernel.args.map fun arg => describeOption (arg.map (·.describe store))
  describeRecord "HostKernel"
    [("name", "\"" ++ vectorAddName ++ "\""), ("args", describeList args)]

/-- A queue with the number of its pending commands. -/
def Queue.describe (queue : Queue) : String :=
  describeRecord "HostQueue"
    [("order", queue.order.label), ("profiling", toString queue.profiling),
     ("pending", toString queue.pending.length)]

end Offload.Host
