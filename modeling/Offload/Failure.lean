import Offload.Stage
import Offload.Status

/-!
# Failures

Why a benchmark run or a whole sweep ended. Each constructor is one cause; `Failure.message` holds
all of the wording. Most failures concern one device only. The four that end the sweep are
singled out by `Failure.isFatal`.
-/

namespace Offload

/-- The causes of failure. -/
inductive Failure where
  /-- The platforms could not be listed. -/
  | enumeration (status : Status)
  /-- There is no platform at all. -/
  | noPlatforms
  /-- The device refused a context. -/
  | contextCreation (status : Status)
  /-- The device refused a command queue. -/
  | queueCreation (status : Status)
  /-- The kernel source could not be built; the compiler's output is kept. -/
  | build (status : Status) (log : String)
  /-- The built program has no usable kernel of that name. -/
  | entryPoint (name : String) (status : Status)
  /-- A device buffer could not be allocated. -/
  | allocation (role : Role) (status : Status)
  /-- A kernel argument was refused. -/
  | kernelArgument (index : Nat) (status : Status)
  /-- A command was refused, or a blocking command failed. -/
  | enqueue (stage : Stage) (status : Status)
  /-- The queue could not be drained. -/
  | drain (status : Status)
  /-- The timestamps of a stage could not be read. -/
  | profiling (stage : Stage) (status : Status)
  /-- The timestamps of a stage run backwards. -/
  | nonMonotonicTimestamps (stage : Stage) (start stop : UInt64)
  /-- No device could run this configuration. -/
  | invalidConfig (reason : String)
  /-- The report could not be written. -/
  | output (reason : String)
  deriving DecidableEq, Repr, Inhabited

namespace Failure

/-- What the user is told. -/
def message : Failure → String
  | enumeration status => "platform enumeration failed: " ++ status.label
  | noPlatforms => "no compute platforms found"
  | contextCreation status => "context creation failed: " ++ status.label
  | queueCreation status => "command queue creation failed: " ++ status.label
  | build status log => "program build failed: " ++ status.label ++ "\n" ++ log
  | entryPoint name status => "kernel entry point '" ++ name ++ "' unavailable: " ++ status.label
  | allocation role status => "allocation of buffer " ++ role.label ++ " failed: " ++ status.label
  | kernelArgument index status =>
    "setting kernel argument " ++ toString index ++ " failed: " ++ status.label
  | enqueue stage status => "enqueue of " ++ stage.label ++ " failed: " ++ status.label
  | drain status => "queue drain failed: " ++ status.label
  | profiling stage status =>
    "profiling info for " ++ stage.label ++ " unavailable: " ++ status.label
  | nonMonotonicTimestamps stage start stop =>
    stage.label ++ " reported end timestamp " ++ toString stop.toNat ++ " before start "
      ++ toString start.toNat
  | invalidConfig reason => "invalid configuration: " ++ reason
  | output reason => "writing the report failed: " ++ reason

/-- The status of the backend call that failed, if a call failed. -/
def status? : Failure → Option Status
  | enumeration status => some status
  | noPlatforms => none
  | contextCreation status => some status
  | queueCreation status => some status
  | build status _ => some status
  | entryPoint _ status => some status
  | allocation _ status => some status
  | kernelArgument _ status => some status
  | enqueue _ status => some status
  | drain status => some status
  | profiling _ status => some status
  | nonMonotonicTimestamps _ _ _ => none
  | invalidConfig _ => none
  | output _ => none

/-- The failure ends the whole sweep and not only the run on one device. -/
def isFatal : Failure → Bool
  | enumeration _ | noPlatforms | invalidConfig _ | output _ => true
  | _ => false

end Failure

end Offload
