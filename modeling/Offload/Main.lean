import Offload.CommandLine.Program

/-!
# The executable

The outermost layer: the files, standard output and the clock of the machine it runs on. All that
is decided is decided in `Offload.CommandLine.perform`.
-/

namespace Offload.Main

/-- The file system of the machine. -/
structure Disk where

/-- The standard output of the machine. -/
structure Console where

/-- The monotonic clock of the machine. -/
structure Monotonic where

/-- What an error of the machine means for the operation on files that met it. -/
def fault (error : IO.Error) : FileFault :=
  match error with
  | .noFileOrDirectory _ _ _ => .missing
  | .alreadyExists _ _ _ => .present
  | .inappropriateType _ code details =>
    if code = 20 ∨ code = -20 then .notDirectory
    else if code = 21 ∨ code = -21 then .isDirectory
    else .other details
  | .invalidArgument _ code details =>
    if code = 36 ∨ code = -36 then .tooLong else .other details
  | error => .other (toString error)

/-- Performs an operation on files. -/
def onDisk {α : Type} (act : IO α) (disk : Disk) : IO (Except FileFault α × Disk) := do
  match ← act.toBaseIO with
  | .ok value => return (.ok value, disk)
  | .error error => return (.error (fault error), disk)

instance : Files IO Disk where
  read path disk := do
    match ← onDisk (IO.FS.readBinFile path) disk with
    | (.ok content, disk) =>
      match String.fromUTF8? content with
      | some text => return (.ok text, disk)
      | none => return (.error .notText, disk)
    | (.error fault, disk) => return (.error fault, disk)
  isDirectory path disk := do
    let (opened, disk) ← onDisk (IO.FS.Handle.mk (path ++ "/.") .read) disk
    return (opened.isOk, disk)
  makeDirectory path := onDisk (IO.FS.createDir path)
  create path := onDisk (IO.FS.writeFile path "")
  append path text := onDisk do
    let handle ← IO.FS.Handle.mk path .append
    handle.putStr text

/-- Performs an operation on standard output. -/
def onConsole (act : IO.FS.Stream → IO Unit) (console : Console) :
    IO (Except String Unit × Console) := do
  match ← (do act (← IO.getStdout) : IO Unit).toBaseIO with
  | .ok () => return (.ok (), console)
  | .error error => return (.error (toString error), console)

instance : Writer IO Console where
  write text := onConsole (·.putStr text)
  flush := onConsole (·.flush)

instance : Clock IO Monotonic where
  read clock := return (UInt64.ofNat (← IO.monoNanosNow), clock)

end Offload.Main

/-- Performs one call of the program on the machine it runs on. The log goes to standard error. -/
def main (arguments : List String) : IO UInt32 := do
  let machine : Offload.CommandLine.Machine Offload.Main.Disk Offload.Main.Console
      Offload.Main.Monotonic := ⟨⟨⟩, ⟨⟩, ⟨⟩, ⟨⟩, []⟩
  let (ending, machine) ← (Offload.CommandLine.perform arguments).run machine
  for notice in machine.log do
    IO.eprintln (notice.level.label ++ " " ++ notice.message)
  if let some message := ending.message? then
    IO.eprintln message
  return ending.exitCode
