import Offload.Backend
import Offload.Host.Queue
import Offload.Source.Declarations

/-!
# Programs and kernels on the host

Programs are not compiled. A build scans the text for kernel declarations, and a kernel of a built
program resolves to the vector addition, the one implementation there is. The success of a build
concerns the program as a whole, while build logs are kept for each device name.

A kernel starts with an argument vector full of gaps. Arguments are bound to parameters of their own
kind only (`Kernel.bind`), in any order and again and again.
-/

namespace Offload.Host

/-- A program and what its builds left. -/
structure Program where
  /-- The text. -/
  source : String
  /-- The last build succeeded. -/
  built : Bool := false
  /-- The declarations found by the last build, none if it failed. -/
  declared : List Source.Declaration := []
  /-- The logs of all builds by device name, the latest first. -/
  logs : List (String × String) := []
  deriving Repr

namespace Program

/-- What a build that ended like this leaves. -/
def record (program : Program) (device : Device) (log : String)
    (declared : Option (List Source.Declaration)) : Program :=
  { program with
    built := declared.isSome
    declared := declared.getD []
    logs := (device.name, log) :: program.logs }

/-- The log of a build for a device without a compiler. -/
def noCompilerLog (device : Device) : String :=
  "error: no compiler available for device '" ++ device.name ++ "'"

/-- Builds a program for a device. -/
def build (program : Program) (device : Device) :
    Except Status (List Source.Declaration) × Program :=
  if device.hasCompiler then
    match Source.scan program.source with
    | .ok declared => (.ok declared, program.record device "" (some declared))
    | .error fault => (.error .buildProgramFailure, program.record device fault.message none)
  else (.error .compilerNotAvailable, program.record device (noCompilerLog device) none)

/-- The log of the last build for a device of that name, empty if there was none. -/
def log (program : Program) (device : Device) : String :=
  (program.logs.lookup device.name).getD ""

/-- Whether a kernel of that name with these parameters can be made. Of several declarations of
    one name the first counts. -/
def checkKernel (program : Program) (name : String) (params : List ParamKind) :
    Except Status Unit :=
  if !program.built then .error .invalidProgramExecutable
  else
    match program.declared.find? fun decl => decl.name = name with
    | none => .error .invalidKernelName
    | some decl =>
      if name ≠ vectorAddName then .error .invalidKernelName
      else if decl.params ≠ vectorAddParams.length ∨ params ≠ vectorAddParams then
        .error .invalidKernelDefinition
      else .ok ()

end Program

/-- A kernel: what is bound to its parameters so far. -/
structure Kernel where
  /-- The argument vector, with a gap for each parameter to which nothing is bound. -/
  args : List (Option Bound) := List.replicate vectorAddParams.length none
  deriving DecidableEq, Repr

namespace Kernel

/-- Binds an argument to the parameter at a position. -/
def bind (kernel : Kernel) (index : Nat) (arg : Argument BufferId) : Except Status Kernel :=
  match vectorAddParams[index]? with
  | none => .error .invalidArgIndex
  | some kind =>
    if arg.kind = kind then .ok ⟨kernel.args.set index (some (.of arg))⟩
    else .error .invalidArgValue

/-- The argument vector, once it has no gaps. -/
def arguments? (kernel : Kernel) : Option (List Bound) :=
  kernel.args.mapM id

end Kernel

end Offload.Host
