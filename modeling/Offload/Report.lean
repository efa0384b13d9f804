import Offload.Decimal.Fixed
import Offload.Json.Basic
import Offload.Stamps
import Offload.Vectors

/-!
# Reports

What a run on one device yields: the size of the data, the duration of each stage as the device
measured it, the overall duration as the host measured it, and the verdict on the output.
`Report.render` is the text for people, `Report.toJson` the data for files.
-/

namespace Offload

namespace Verdict

/-- Nothing wrong was found. -/
def isPassed : Verdict → Bool
  | passed _ _ => true
  | failed _ _ _ => false

/-- The verdict in one line. -/
def line : Verdict → String
  | passed checked true =>
    "Result verification: PASSED (all " ++ toString checked ++ " elements are correct)"
  | passed checked false =>
    "Result verification: PASSED (first " ++ toString checked ++ " elements are correct)"
  | failed index expected actual =>
    "Result verification: FAILED (element " ++ toString index ++ ": expected "
      ++ toString expected.toInt ++ ", got " ++ toString actual.toInt ++ ")"

/-- The members of a verdict as data, the kind of verdict first. -/
def toJson : Verdict → Json
  | passed checked exhaustive =>
    .record [("status", .ofText "passed"), ("checked", .ofNat checked),
      ("exhaustive", .bool exhaustive)]
  | failed index expected actual =>
    .record [("status", .ofText "failed"), ("index", .ofNat index),
      ("expected", .ofInt expected.toInt), ("actual", .ofInt actual.toInt)]

end Verdict

/-- Durations in milliseconds. -/
structure Timings where
  /-- The upload of A, by the device's clock. -/
  writeA : Float
  /-- The upload of B, by the device's clock. -/
  writeB : Float
  /-- The addition, by the device's clock. -/
  kernel : Float
  /-- The download of C, by the device's clock. -/
  readC : Float
  /-- From the first submission to the empty queue, by the host's clock. -/
  overall : Float

/-- The duration of a stage in milliseconds, from nanoseconds. -/
def stageMilliseconds (nanoseconds : UInt64) : Float :=
  nanoseconds.toFloat * 1e-6

/-- The overall duration in milliseconds. The seconds and the rest of the nanoseconds are
    converted one by one. -/
def overallMilliseconds (nanoseconds : UInt64) : Float :=
  let second : UInt64 := 1000000000
  ((nanoseconds / second).toFloat + (nanoseconds % second).toFloat / 1e9) * 1000.0

/-- The size of so many elements in units of 2 ^ 20 bytes. -/
def dataMegabytes (elements : Nat) : Float :=
  (byteCount (UInt64.ofNat elements)).toFloat / 1048576.0

/-- The result of a run on one device. -/
structure Report where
  /-- The length of the vectors. -/
  elements : Nat
  /-- The size of one vector, in units of 2 ^ 20 bytes. -/
  dataSize : Float
  /-- The durations. -/
  timings : Timings
  /-- The verdict on the output. -/
  verdict : Verdict

namespace Report

/-- The results block for people, with a blank line before and after. -/
def render (report : Report) : String :=
  let milliseconds (x : Float) := Decimal.fixed 6 x ++ " ms\n"
  "\n--- Benchmark Results (" ++ toString report.elements ++ " elements) ---\n"
    ++ "Data Size: " ++ Decimal.fixed 2 report.dataSize ++ " MB\n"
    ++ "Write A (Host -> Device): " ++ milliseconds report.timings.writeA
    ++ "Write B (Host -> Device): " ++ milliseconds report.timings.writeB
    ++ "Kernel Execution Time:    " ++ milliseconds report.timings.kernel
    ++ "Read C (Device -> Host):  " ++ milliseconds report.timings.readC
    ++ "Total Overall Time (measured by host clock): " ++ milliseconds report.timings.overall
    ++ report.verdict.line ++ "\n\n"

/-- The members of a report as data. -/
def members (report : Report) : List (String × Json) :=
  [("elements", .ofNat report.elements),
   ("data_size_mb", .ofFloat report.dataSize),
   ("timings", .record
     [("write_a_ms", .ofFloat report.timings.writeA),
      ("write_b_ms", .ofFloat report.timings.writeB),
      ("kernel_ms", .ofFloat report.timings.kernel),
      ("read_c_ms", .ofFloat report.timings.readC),
      ("overall_ms", .ofFloat report.timings.overall)]),
   ("verification", report.verdict.toJson)]

/-- A report as data. -/
def toJson (report : Report) : Json :=
  .record report.members

end Report

end Offload
