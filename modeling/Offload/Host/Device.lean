import Offload.Stage
import Offload.Status

/-!
# Devices in host memory

The host backend lets devices exist in the memory of the host. A device can be given faults of all
kinds, so that everything that may go wrong on a real device can be brought about here.
-/

namespace Offload.Host

/-- The order in which the queues of a device run their commands. -/
inductive QueueOrder where
  /-- As submitted. -/
  | inOrder
  /-- The most recently submitted of all commands that are ready. -/
  | outOfOrder
  deriving DecidableEq, Repr, Inhabited

/-- The word for an order in descriptions. -/
def QueueOrder.label : QueueOrder → String
  | inOrder => "InOrder"
  | outOfOrder => "OutOfOrder"

/-- A device and its faults. -/
structure Device where
  /-- The name, by which devices are told apart. -/
  name : String
  /-- The class that the listing shows. -/
  kind : DeviceClass
  /-- The order of its queues. -/
  order : QueueOrder := .inOrder
  /-- The status with which it refuses contexts, if it does. -/
  contextFault : Option Status := none
  /-- The status with which it refuses queues, if it does. -/
  queueFault : Option Status := none
  /-- It can build programs. -/
  hasCompiler : Bool := true
  /-- The largest buffer in bytes, if there is a limit. -/
  maxAllocBytes : Option UInt64 := none
  /-- Its timestamps run backwards. -/
  backwardsClock : Bool := false
  deriving DecidableEq, Repr

/-- A platform and its devices. -/
structure Platform where
  /-- The name that the listing shows. -/
  name : String
  /-- The version that the listing shows. -/
  version : String
  /-- The devices in order. -/
  devices : List Device := []
  /-- The status with which listing the devices fails, if it does. -/
  queryFault : Option Status := none
  deriving Repr

/-- The platform that stands for the host itself. -/
def Platform.reference : Platform where
  name := "Host Reference Platform"
  version := "OpenCL 3.0 clbench-host"
  devices := [{ name := "Host Reference CPU", kind := .cpu }]

/-- A context: the device in whose scope objects are made. -/
structure Context where
  /-- The device. -/
  device : Device
  deriving DecidableEq, Repr

end Offload.Host
