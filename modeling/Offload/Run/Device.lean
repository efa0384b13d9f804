import Offload.Report
import Offload.Run.Execute

/-!
# A run on one device

`collect` turns an execution into a report: it reads the timestamps of the four stages in order and
checks the output. `onDevice` is the whole benchmark of one device, from the context to the report;
the first failure ends it.
-/

namespace Offload.Run

variable {m : Type → Type} [Monad m] {B : Backend m} {κ : Type}

/-- The duration of a stage in milliseconds, by the device's clock. -/
def stageTime (event : B.handles.Event) (stage : Stage) : Attempt B κ Float := do
  let stamps ← orFail (ask (.profiling event)) (.profiling stage)
  match stamps.elapsed? with
  | some elapsed => return stageMilliseconds elapsed
  | none => throw (.nonMonotonicTimestamps stage stamps.start stamps.stop)

/-- The report on an execution that left these vectors. -/
def collect (execution : Execution B.handles.Event) (vectors : Vectors) (sample : Sample) :
    Attempt B κ Report := do
  let time (stage : Stage) : Attempt B κ Float := stageTime (execution.events.get stage) stage
  let writeA ← time .writeA
  let writeB ← time .writeB
  let kernel ← time .kernel
  let readC ← time .readC
  return {
    elements := vectors.size
    dataSize := dataMegabytes vectors.size
    timings := ⟨writeA, writeB, kernel, readC, overallMilliseconds execution.overall⟩
    verdict := vectors.verify sample }

/-- Runs the benchmark on a device. -/
def onDevice [Clock m κ] (device : B.handles.Device) (config : Config) :
    Attempt B κ Report := do
  let resources ← acquire device
  let kernel ← build resources device config.kernelSource config.entryPoint
  let buffers ← allocate resources config.elements
  let vectors := Vectors.filled config.elements.toNat config.fillA config.fillB
  let (outcome, vectors) ← always (execute resources kernel buffers vectors)
  match outcome with
  | .error failure => throw failure
  | .ok execution => collect execution vectors config.sample

end Offload.Run
