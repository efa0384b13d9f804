import Offload.Stage

/-!
# The listing

The lines that a sweep writes besides the results: a heading, one line for each platform, and two
for each device. Platforms and devices are numbered from zero, devices on each platform anew.
-/

namespace Offload.Listing

/-- The first line. -/
def heading : String := "--- Discovered OpenCL Platforms and Devices ---\n"

/-- The number of characters of the separating line. -/
def separatorWidth : Nat := 43

/-- A blank line and a line that separates. -/
def separator : String :=
  "\n" ++ String.ofList (List.replicate separatorWidth '~') ++ "\n"

/-- One text occurs in another. The empty one occurs everywhere. -/
def occurs (part : List Char) : List Char → Bool
  | [] => part.isEmpty
  | c :: text => part.isPrefixOf (c :: text) || occurs part text

/-- A platform is set off by a separator if it is not the first and its name has the marker in
    it. -/
def isSetOff (marker : String) (index : Nat) (name : String) : Bool :=
  index ≠ 0 && occurs marker.toList name.toList

/-- The line of a platform. -/
def platform (index : Nat) (name version : String) : String :=
  "Platform " ++ toString index ++ ": " ++ name ++ " (Version: " ++ version ++ ")\n"

/-- The line below a platform without devices. -/
def noDevices : String := "  No devices found for this platform.\n"

/-- The lines of a device, the second of which precedes its results. -/
def device (index : Nat) (name : String) (kind : DeviceClass) (platform : String) : String :=
  "  Device " ++ toString index ++ ": " ++ name ++ " (Type: " ++ kind.label ++ ")\n"
    ++ "--- Benchmarking Device: " ++ name ++ " (Platform: " ++ platform ++ ") ---\n"

end Offload.Listing
