import Offload.CommandLine.Options
import Offload.CommandLine.Trouble
import Offload.Config.Data
import Offload.Host.Backend
import Offload.Sweep.Basic

/-!
# The program

One call of the program reads its options, makes the configuration, saves it if a directory for
files was given, sweeps the host's devices, and saves the results there, too. The first trouble ends
it (`Job`). What the call reads and changes is its `Machine`: files, standard output, two clocks
and the log.
-/

namespace Offload.CommandLine

/-- The version of the program. -/
def version : String := "0.1.0"

/-- The line that tells the version. -/
def versionLine : String := "clbench " ++ version ++ "\n"

/-- The text that explains the options. -/
def helpText : String :=
  "Cross-device vector-add benchmark\n\nUsage: clbench [OPTIONS]\n\nOptions:\n"
    ++ String.join (Setting.all.map fun setting => "      --" ++ setting.name ++ " <VALUE>\n")
    ++ String.join (Switch.all.map fun switch => "      --" ++ switch.name ++ "\n")

/-- A notice goes to the log. Details do so only if asked for. -/
def Options.shows (options : Options) (notice : Notice) : Bool :=
  notice.level ≠ .debug || options.verbose

/-- What a call of the program reads and changes. -/
structure Machine (φ ω κ : Type) where
  /-- The files. -/
  files : φ
  /-- Standard output. -/
  out : ω
  /-- The clock of the devices. -/
  deviceClock : κ
  /-- The clock of the host. -/
  hostClock : κ
  /-- The log of the sweep. -/
  log : List Notice := []

/-- A part of a call, which may end in trouble. -/
abbrev Job (m : Type → Type) (φ ω κ : Type) :=
  ExceptT Trouble (StateT (Machine φ ω κ) m)

namespace Job

variable {m : Type → Type} [Monad m] {φ ω κ : Type}

/-- Does something with the files. -/
def withFiles {α : Type} (act : φ → m (Except FileFault α × φ)) (trouble : FileFault → Trouble) :
    Job m φ ω κ α :=
  fun machine => do
    let (outcome, files) ← act machine.files
    return (outcome.mapError trouble, { machine with files })

/-- Sweeps the platform that stands for the host itself. -/
def sweep [Writer m ω] [Clock m κ] (options : Options) (config : Config) :
    Job m φ ω κ Summary :=
  fun machine => do
    let host := Host.State.initial machine.deviceClock [Host.Platform.reference]
    let world : World (Host.backend m κ) κ := { backend := host, clock := machine.hostClock }
    let sweep : Sweep (Host.backend m κ) κ ω Summary := Sweep.all config
    let ((outcome, out), world) ← sweep machine.out world
    let machine :=
      { machine with
        out
        deviceClock := world.backend.store.clock
        hostClock := world.clock
        log := machine.log ++ world.log.filter options.shows }
    return (outcome.mapError .sweepFailed, machine)

variable [Files m φ]

/-- Makes the configuration. A kernel text from a file takes the place of the built-in one. -/
def configure (options : Options) : Job m φ ω κ Config := do
  let config ←
    match options.kernel with
    | none => pure options.config
    | some path =>
      let text ← withFiles (Files.read path) (.kernelUnreadable path)
      pure { options.config with kernelSource := text }
  match config.validate with
  | .ok () => return config
  | .error failure => throw (.configRefused failure)

/-- Writes the text of a new file. -/
def writeFile (path text : String) (created written : FileFault → Trouble) :
    Job m φ ω κ Unit := do
  withFiles (Files.create path) created
  withFiles (Files.append path text) written

/-- The configuration as it is saved. -/
def configText (options : Options) (config : Config) : String :=
  (Json.record
    [("backend", .ofText options.backend.key), ("bench", config.toJson)]).sorted.pretty

/-- Saves the configuration. -/
def saveConfig (options : Options) (config : Config) (directory : String) :
    Job m φ ω κ Unit := do
  withFiles (Files.makeDirectories directory) .directoryRefused
  let path := Files.pathWithin directory "config.json"
  writeFile path (configText options config) (.configUnwritable path) (.configUnwritable path)

/-- The results as they are saved. -/
def resultsText (summary : Summary) : String :=
  let results := Json.record
    [("version", .ofText version),
     ("backend", .ofText summary.backend),
     ("platforms", .ofNat summary.platforms),
     ("completed", .ofNat summary.completed),
     ("failed", .ofNat summary.failed),
     ("devices", .array (summary.devices.map DeviceResult.toJson))]
  (Json.record [("clbench", results)]).sorted.pretty ++ "\n"

/-- Saves the results. -/
def saveResults (summary : Summary) (directory : String) : Job m φ ω κ Unit := do
  let path := Files.pathWithin directory "results.json"
  writeFile path (resultsText summary) (.resultsRefused path) .resultsUnwritable

/-- Does something with the directory for files, if one was given. -/
def inDirectory (options : Options) (save : String → Job m φ ω κ Unit) : Job m φ ω κ Unit :=
  match options.outDir with
  | none => pure ()
  | some directory => save directory

/-- Does what the options ask for. -/
def benchmark [Writer m ω] [Clock m κ] (options : Options) : Job m φ ω κ Unit := do
  let config ← configure options
  inDirectory options (saveConfig options config)
  match options.backend with
  | .opencl => throw .backendMissing
  | .host =>
    let summary ← sweep options config
    inDirectory options (saveResults summary)

end Job

/-- How a call ended. -/
inductive Ending where
  /-- All was done. -/
  | done
  /-- The arguments are wrong. -/
  | misused (misuse : Misuse)
  /-- Something went wrong on the way. -/
  | troubled (trouble : Trouble)
  deriving DecidableEq, Repr

namespace Ending

/-- The exit code. -/
def exitCode : Ending → UInt32
  | done => 0
  | misused _ => 2
  | troubled trouble => trouble.exitCode

/-- What is told on standard error in the end. -/
def message? : Ending → Option String
  | done => none
  | misused misuse => some misuse.message
  | troubled trouble => some trouble.message

end Ending

variable {m : Type → Type} [Monad m] {φ ω κ : Type} [Files m φ] [Writer m ω] [Clock m κ]

/-- Writes a text to standard output. Nobody is told if that fails. -/
def tell (text : String) : StateT (Machine φ ω κ) m Unit := fun machine => do
  let (_, out) ← Writer.write text machine.out
  return ((), { machine with out })

/-- Performs one call of the program. -/
def perform (arguments : List String) : StateT (Machine φ ω κ) m Ending := do
  match Options.read arguments with
  | .error .help =>
    tell helpText
    return .done
  | .error .version =>
    tell versionLine
    return .done
  | .error (.misuse misuse) => return .misused misuse
  | .ok options =>
    match ← (Job.benchmark options).run with
    | .ok () => return .done
    | .error trouble => return .troubled trouble

end Offload.CommandLine
