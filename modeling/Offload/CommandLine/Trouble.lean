import Offload.Failure
import Offload.Files.Basic
import Offload.Text.Quoted

/-!
# Troubles

Why the program could not do what it was asked to. A trouble is told by a headline and the chain of
its causes (`Trouble.message`), and it decides about the exit code.
-/

namespace Offload.CommandLine

/-- The troubles of the program. -/
inductive Trouble where
  /-- The file with the kernel text cannot be read. -/
  | kernelUnreadable (path : String) (fault : FileFault)
  /-- No device could run this configuration. -/
  | configRefused (failure : Failure)
  /-- The directory for the files cannot be made. -/
  | directoryRefused (fault : FileFault)
  /-- The file with the configuration cannot be written. -/
  | configUnwritable (path : String) (fault : FileFault)
  /-- This build has no access to OpenCL devices. -/
  | backendMissing
  /-- The sweep ended early. -/
  | sweepFailed (failure : Failure)
  /-- The file with the results cannot be made. -/
  | resultsRefused (path : String) (fault : FileFault)
  /-- The results cannot be written to their file. -/
  | resultsUnwritable (fault : FileFault)
  deriving DecidableEq, Repr

namespace Trouble

/-- The failure and, where a write failed, the reason behind it. -/
def failureChain : Failure → List String
  | .output reason => [(Failure.output reason).message, reason]
  | failure => [failure.message]

/-- The headline. -/
def headline : Trouble → String
  | kernelUnreadable path _ => "Failed to read kernel source " ++ Text.quoted path
  | configRefused _ => "Invalid benchmark configuration"
  | directoryRefused _ => "Failed to create results directory"
  | configUnwritable path _ => "Failed to write config to " ++ Text.quoted path
  | backendMissing =>
    "clbench was built without the \x60opencl\x60 feature; rebuild with --features opencl or use "
      ++ "--backend host"
  | sweepFailed _ => "Benchmark sweep failed"
  | resultsRefused path _ => "Failed to create " ++ Text.quoted path
  | resultsUnwritable fault => fault.message

/-- The causes, each the reason for the one before it. -/
def causes : Trouble → List String
  | kernelUnreadable _ fault => [fault.message]
  | configRefused failure => failureChain failure
  | directoryRefused fault => [fault.message]
  | configUnwritable _ fault => [fault.message]
  | backendMissing => []
  | sweepFailed failure => failureChain failure
  | resultsRefused _ fault => [fault.message]
  | resultsUnwritable _ => []

/-- The causes below the headline. Several causes are numbered. -/
def causeLines : List String → String
  | [] => ""
  | [cause] => "\n\nCaused by:\n    " ++ cause
  | causes =>
    "\n\nCaused by:" ++ String.join ((List.range causes.length).zip causes |>.map
      fun (index, cause) => "\n    " ++ toString index ++ ": " ++ cause)

/-- What the user is told. -/
def message (trouble : Trouble) : String :=
  "Error: " ++ trouble.headline ++ causeLines trouble.causes

/-- There is nothing to benchmark, which has an exit code of its own. -/
def isNoPlatform : Trouble → Bool
  | sweepFailed (.enumeration _) => true
  | sweepFailed .noPlatforms => true
  | _ => false

/-- The exit code. -/
def exitCode (trouble : Trouble) : UInt32 :=
  if trouble.isNoPlatform then 255 else 1

end Trouble

end Offload.CommandLine
