import Offload.Access

/-!
# Stages and buffers of a run

A run uploads A and B, adds them on the device and downloads C. `Stage` names these four commands,
`Role` the three buffers, and `DeviceClass` the kinds of devices a run may take place on.
-/

namespace Offload

/-- The four commands of a run. -/
inductive Stage where
  /-- The upload of A. -/
  | writeA
  /-- The upload of B. -/
  | writeB
  /-- The addition on the device. -/
  | kernel
  /-- The download of C. -/
  | readC
  deriving DecidableEq, Repr, Inhabited

namespace Stage

/-- The stages in the order in which they are submitted. -/
def all : List Stage := [writeA, writeB, kernel, readC]

/-- How messages call a stage. -/
def label : Stage → String
  | writeA => "write A"
  | writeB => "write B"
  | kernel => "kernel execution"
  | readC => "read C"

/-- How data files call a stage. -/
def key : Stage → String
  | writeA => "write_a"
  | writeB => "write_b"
  | kernel => "kernel_exec"
  | readC => "read_c"

end Stage

/-- The three buffers of a run. -/
inductive Role where
  /-- The first input. -/
  | a
  /-- The second input. -/
  | b
  /-- The output. -/
  | c
  deriving DecidableEq, Repr, Inhabited

namespace Role

/-- The letter of a buffer. -/
def label : Role → String
  | a => "A"
  | b => "B"
  | c => "C"

/-- The access hints of a buffer: A and B are inputs, C is the output. -/
def access : Role → Access
  | a => .input
  | b => .input
  | c => .output

end Role

/-- The kind of a device, as enumeration reports it. -/
inductive DeviceClass where
  /-- A general-purpose processor. -/
  | cpu
  /-- A graphics processor. -/
  | gpu
  /-- A dedicated accelerator. -/
  | accelerator
  /-- Anything else. -/
  | unknown
  deriving DecidableEq, Repr, Inhabited

namespace DeviceClass

/-- How listings call a device class. -/
def label : DeviceClass → String
  | cpu => "CPU"
  | gpu => "GPU"
  | accelerator => "Accelerator"
  | unknown => "Unknown"

/-- How data files call a device class. -/
def key : DeviceClass → String
  | cpu => "Cpu"
  | gpu => "Gpu"
  | accelerator => "Accelerator"
  | unknown => "Unknown"

end DeviceClass

end Offload
