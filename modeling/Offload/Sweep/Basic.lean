import Offload.Run.Device
import Offload.Sweep.Listing
import Offload.Sweep.Summary
import Offload.Writer

/-!
# Sweeps

A sweep lists the platforms of a backend and benchmarks each device in turn, from its own context
on. It writes the listing and the results while it goes on. A device that fails is recorded and the
sweep goes on with the next one, and so it does with the next platform where the devices of one
cannot be listed. Only a configuration that no device could run, a failed or empty listing of the
platforms and a failed write end the sweep early.
-/

namespace Offload

/-- A computation that writes, in a world, and may end with a failure. -/
abbrev Sweep {m : Type → Type} (B : Backend m) (κ ω : Type) :=
  ExceptT Failure (StateT ω (Run B κ))

namespace Sweep

variable {m : Type → Type} [Monad m] {B : Backend m} {κ ω : Type}

/-- Does something in the world that writes nothing. -/
def perform {α : Type} (run : Run B κ α) : Sweep B κ ω α :=
  ExceptT.lift (StateT.lift run)

/-- Writes a notice to the log. -/
def note (notice : Notice) : Sweep B κ ω Unit :=
  perform (Run.note notice)

section Writing

variable [Writer m ω]

/-- Does something with the writer. -/
def output (act : ω → m (Except String Unit × ω)) : Sweep B κ ω Unit :=
  fun writer world => do
    let (outcome, writer) ← act writer
    return ((outcome.mapError .output, writer), world)

/-- Writes a text. -/
def write (text : String) : Sweep B κ ω Unit :=
  output (Writer.write text)

/-- Flushes the writer. -/
def flush : Sweep B κ ω Unit :=
  output Writer.flush

variable [Clock m κ]

/-- Benchmarks a device. -/
def device (config : Config) (platform : String) (index : Nat)
    (entry : DeviceEntry B.handles.Device) : Sweep B κ ω DeviceResult := do
  write (Listing.device index entry.name entry.kind platform)
  flush
  -- a failed run is a result like any other
  match ← perform (Run.onDevice entry.handle config).run with
  | .ok report =>
    write report.render
    note (.runDone entry.name report.timings.kernel report.timings.overall)
    return ⟨platform, entry.name, entry.kind, .completed report⟩
  | .error failure =>
    note (.runFailed entry.name failure)
    return ⟨platform, entry.name, entry.kind, .failed failure⟩

/-- Benchmarks the devices of a platform, from a number on. -/
def devices (config : Config) (platform : String) :
    Nat → List (DeviceEntry B.handles.Device) → Sweep B κ ω (List DeviceResult)
  | _, [] => return []
  | index, entry :: entries => do
    let result ← device config platform index entry
    return result :: (← devices config platform (index + 1) entries)

/-- Benchmarks a platform. -/
def platform (config : Config) (index : Nat) (entry : PlatformEntry B.handles.Device) :
    Sweep B κ ω (List DeviceResult) := do
  if Listing.isSetOff config.separatorMarker index entry.name then
    write Listing.separator
  write (Listing.platform index entry.name entry.version)
  match entry.devices with
  | .error status =>
    note (.deviceQueryFailed entry.name status)
    return []
  | .ok [] =>
    write Listing.noDevices
    return []
  | .ok entries => devices config entry.name 0 entries

/-- Benchmarks platforms, from a number on. -/
def platforms (config : Config) :
    Nat → List (PlatformEntry B.handles.Device) → Sweep B κ ω (List DeviceResult)
  | _, [] => return []
  | index, entry :: entries => do
    let results ← platform config index entry
    return results ++ (← platforms config (index + 1) entries)

/-- Lists the platforms, of which there must be one at least. -/
def list : Sweep B κ ω (List (PlatformEntry B.handles.Device)) := do
  match ← perform (Run.ask .platforms) with
  | .error status => throw (.enumeration status)
  | .ok [] => throw .noPlatforms
  | .ok entries => return entries

/-- Benchmarks all devices of a backend. -/
def all (config : Config) : Sweep B κ ω Summary := do
  ExceptT.mk (pure config.validate)
  let entries ← list
  note (.platformsFound entries.length B.name)
  write Listing.heading
  let results ← platforms config 0 entries
  let summary : Summary := ⟨B.name, entries.length, results⟩
  note (.sweepDone summary.completed summary.failed)
  return summary

end Writing

end Sweep

end Offload
