/-!
# Timestamps of a command

A device counts nanoseconds from a moment of its own choice, so that only the difference of two
readings means something (`Stamps.elapsed?`).
-/

namespace Offload

/-- The readings of the device's counter at the start and at the end of a command. -/
structure Stamps where
  /-- The reading when the command started. -/
  start : UInt64
  /-- The reading when the command ended. -/
  stop : UInt64
  deriving DecidableEq, Repr, Inhabited

/-- Nanoseconds from start to end, or nothing when the counter went backwards. -/
def Stamps.elapsed? (stamps : Stamps) : Option UInt64 :=
  if stamps.start ≤ stamps.stop then some (stamps.stop - stamps.start) else none

/-- The stamps of a counter that runs backwards: the end lies before the start. -/
def Stamps.reversed (stamps : Stamps) : Stamps :=
  ⟨stamps.stop + 1, stamps.start⟩

end Offload
