import Offload.Decimal.Fixed
import Offload.Failure

/-!
# Diagnostics

What a sweep tells the log while it goes on. Each constructor is one occasion; `Notice.message`
holds all of the wording and `Notice.level` how grave it is.
-/

namespace Offload

/-- How grave a notice is. -/
inductive Level where
  /-- Something failed. -/
  | error
  /-- Something is wrong, but the work goes on. -/
  | warn
  /-- The normal course of a sweep. -/
  | info
  /-- Details of a run. -/
  | debug
  deriving DecidableEq, Repr

/-- The word for a level. -/
def Level.label : Level → String
  | error => "ERROR"
  | warn => "WARN"
  | info => "INFO"
  | debug => "DEBUG"

/-- The occasions for a notice. -/
inductive Notice where
  /-- The host backend accepted a program. -/
  | kernelsDeclared (count : Nat) (device : String)
  /-- The host backend executed a command that failed. -/
  | commandFailed (command : String) (status : Status)
  /-- A device has a context and a queue. -/
  | resourcesReady
  /-- A device rejected the program. -/
  | buildFailed (log : String)
  /-- A device accepted the program. -/
  | programBuilt
  /-- The three buffers exist. -/
  | buffersAllocated (bytes : UInt64)
  /-- All commands of a run are through. -/
  | drained (nanoseconds : UInt64)
  /-- The queue could not be drained after a submission that had failed already. -/
  | drainFailed (status : Status)
  /-- Commands may still use the vectors of the host, which are given up. -/
  | vectorsAbandoned (commands : Nat) (status : Status)
  /-- A sweep begins. -/
  | platformsFound (count : Nat) (backend : String)
  /-- The devices of one platform could not be listed. -/
  | deviceQueryFailed (platform : String) (status : Status)
  /-- A run ended with a report. -/
  | runDone (device : String) (kernel overall : Float)
  /-- A run ended with a failure. -/
  | runFailed (device : String) (failure : Failure)
  /-- A sweep is over. -/
  | sweepDone (completed failed : Nat)

namespace Notice

/-- How grave a notice is. -/
def level : Notice → Level
  | kernelsDeclared _ _ | commandFailed _ _ | resourcesReady | programBuilt | buffersAllocated _
  | drained _ => .debug
  | buildFailed _ | runFailed _ _ => .error
  | drainFailed _ | vectorsAbandoned _ _ | deviceQueryFailed _ _ => .warn
  | platformsFound _ _ | runDone _ _ _ | sweepDone _ _ => .info

/-- What the log says, given how it writes the durations measured by the host: one in
    nanoseconds, one in milliseconds. -/
def messageWith (nanoseconds : UInt64 → String) (milliseconds : Float → String) :
    Notice → String
  | kernelsDeclared count device =>
    "[HOST:BUILD] " ++ toString count ++ " kernel(s) declared for " ++ device
  | commandFailed command status =>
    "[HOST:EXEC] " ++ command ++ " failed: " ++ status.name
  | resourcesReady => "[BENCH:SETUP] context and profiling queue ready"
  | buildFailed log => "[BENCH:BUILD] Build failed, log:\n" ++ log
  | programBuilt => "[BENCH:BUILD] program built"
  | buffersAllocated bytes => "[BENCH:ALLOC] 3 x " ++ toString bytes.toNat ++ " bytes"
  | drained time => "[BENCH:DRAIN] queue drained in " ++ nanoseconds time
  | drainFailed status =>
    "[BENCH:DRAIN] Drain after failed submission also failed: " ++ status.digits
  | vectorsAbandoned commands status =>
    "[BENCH:DRAIN] " ++ toString commands ++ " submitted command(s) could not be waited out ("
      ++ status.name ++ "); leaking host arrays"
  | platformsFound count backend =>
    "[SWEEP:ENUM] " ++ toString count ++ " platform(s) on the " ++ backend ++ " backend"
  | deviceQueryFailed platform status =>
    "[SWEEP:ENUM] Device query for '" ++ platform ++ "' failed: " ++ status.label
  | runDone device kernel overall =>
    "[BENCH:DONE] " ++ device ++ ": kernel " ++ Decimal.fixed 6 kernel ++ " ms, overall "
      ++ milliseconds overall ++ " ms"
  | runFailed device failure => "[BENCH:FAIL] " ++ device ++ ": " ++ failure.message
  | sweepDone completed failed =>
    "[SWEEP:DONE] " ++ toString completed ++ " device(s) completed, " ++ toString failed
      ++ " failed"

/-- What the log says. -/
def message : Notice → String :=
  messageWith (fun time => toString time.toNat ++ "ns") (Decimal.fixed 6)

end Notice

end Offload
