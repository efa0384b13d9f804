import Offload.Report

/-!
# The summary of a sweep

A sweep leaves one result for each device it has benchmarked, in the order of the listing. A
device whose run failed has the failure for its result, so that no device gets lost.
-/

namespace Offload

/-- What became of the run on one device. -/
inductive Outcome where
  /-- It ended with a report, whatever the verdict in it. -/
  | completed (report : Report)
  /-- It failed. -/
  | failed (failure : Failure)

namespace Outcome

/-- The run ended with a report. -/
def isCompleted : Outcome → Bool
  | completed _ => true
  | failed _ => false

/-- An outcome as data, the kind of outcome first. -/
def toJson : Outcome → Json
  | completed report => .record (("outcome", .ofText "completed") :: report.members)
  | failed failure =>
    .record [("outcome", .ofText "failed"), ("error", .ofText failure.message)]

end Outcome

/-- The result for one device. -/
structure DeviceResult where
  /-- The name of the platform. -/
  platform : String
  /-- The name of the device. -/
  device : String
  /-- The class of the device. -/
  kind : DeviceClass
  /-- What became of the run. -/
  outcome : Outcome

/-- A device's result as data. -/
def DeviceResult.toJson (result : DeviceResult) : Json :=
  .record
    [("platform", .ofText result.platform),
     ("device", .ofText result.device),
     ("class", .ofText result.kind.key),
     ("outcome", result.outcome.toJson)]

/-- What a sweep leaves. -/
structure Summary where
  /-- What the backend is called. -/
  backend : String
  /-- The number of platforms. -/
  platforms : Nat
  /-- The results in the order of the listing. -/
  devices : List DeviceResult

namespace Summary

/-- The number of runs that ended with a report. -/
def completed (summary : Summary) : Nat :=
  summary.devices.countP (·.outcome.isCompleted)

/-- The number of runs that failed. -/
def failed (summary : Summary) : Nat :=
  summary.devices.length - summary.completed

/-- A summary as data. -/
def toJson (summary : Summary) : Json :=
  .record
    [("backend", .ofText summary.backend),
     ("platforms", .ofNat summary.platforms),
     ("devices", .array (summary.devices.map DeviceResult.toJson))]

end Summary

end Offload
