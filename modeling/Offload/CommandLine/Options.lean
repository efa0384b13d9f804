import Offload.Config.Basic
import Offload.Decimal.Digits

/-!
# Options

The arguments of the program are read from left to right (`Options.read`). An option that takes a
value has it either in the same argument behind an equals sign or in the next one, which then must
not look like an option; negative numbers are fine where the option takes any integer. Each option
may be given once. A request for help or for the version counts as soon as it is reached, and so
does everything that is wrong before it, while the rule that a count and the check of all elements
exclude each other concerns the arguments as a whole.
-/

namespace Offload.CommandLine

/-- The backends that can be asked for. -/
inductive BackendChoice where
  /-- The host backend. -/
  | host
  /-- Devices behind the OpenCL driver loader, which this build has no access to. -/
  | opencl
  deriving DecidableEq, Repr

/-- The word for a backend. -/
def BackendChoice.key : BackendChoice → String
  | host => "host"
  | opencl => "opencl"

/-- What a sweep is asked to do. -/
structure Options where
  /-- The backend. -/
  backend : BackendChoice := .host
  /-- The configuration, apart from a kernel text that is still to be read. -/
  config : Config := {}
  /-- The file with the kernel text, if it is not the built-in one. -/
  kernel : Option String := none
  /-- The directory for the files with the configuration and the results. -/
  outDir : Option String := none
  /-- Details go to the log, too. -/
  verbose : Bool := false
  deriving DecidableEq, Repr

/-! ### What can be given -/

/-- The options that take a value. -/
inductive Setting where
  /-- The backend. -/
  | backend
  /-- The element count. -/
  | elements
  /-- How many leading elements are checked. -/
  | verifyCount
  /-- Every element of A. -/
  | fillA
  /-- Every element of B. -/
  | fillB
  /-- The file with the kernel text. -/
  | kernel
  /-- The directory for the files. -/
  | outDir
  deriving DecidableEq, Repr

namespace Setting

/-- How an option is called behind its two dashes. -/
def name : Setting → String
  | backend => "backend"
  | elements => "elements"
  | verifyCount => "verify-count"
  | fillA => "fill-a"
  | fillB => "fill-b"
  | kernel => "kernel"
  | outDir => "out-dir"

/-- All options that take a value. -/
def all : List Setting := [backend, elements, verifyCount, fillA, fillB, kernel, outDir]

/-- The option takes any integer. -/
def takesInteger (setting : Setting) : Bool :=
  setting = fillA || setting = fillB

end Setting

/-- The options without a value. -/
inductive Switch where
  /-- All elements are checked. -/
  | verifyAll
  /-- Details go to the log, too. -/
  | verbose
  /-- Explain the options. -/
  | help
  /-- Tell the version. -/
  | version
  deriving DecidableEq, Repr

namespace Switch

/-- How a switch is called behind its two dashes. -/
def name : Switch → String
  | verifyAll => "verify-all"
  | verbose => "verbose"
  | help => "help"
  | version => "version"

/-- The letter of a switch behind a single dash. -/
def letter? : Switch → Option Char
  | verifyAll => none
  | verbose => some 'v'
  | help => some 'h'
  | version => some 'V'

/-- All switches. -/
def all : List Switch := [verifyAll, verbose, help, version]

end Switch

/-- What is wrong with the arguments. -/
inductive Misuse where
  /-- No option is called that, and plain arguments are not taken. -/
  | unexpected (argument : String)
  /-- The value of an option is missing. -/
  | missingValue (option : String)
  /-- An option cannot have that value. -/
  | invalidValue (option value : String)
  /-- A switch was given a value. -/
  | valueRefused (option : String)
  /-- An option was given twice. -/
  | repeated (option : String)
  /-- A count and the check of all elements were both asked for. -/
  | conflict
  deriving DecidableEq, Repr

/-- What the user is told. -/
def Misuse.message : Misuse → String
  | unexpected argument => "error: unexpected argument '" ++ argument ++ "' found"
  | missingValue option => "error: a value is required for '--" ++ option ++ "'"
  | invalidValue option value => "error: invalid value '" ++ value ++ "' for '--" ++ option ++ "'"
  | valueRefused option => "error: no value is taken by '--" ++ option ++ "'"
  | repeated option => "error: '--" ++ option ++ "' cannot be used multiple times"
  | conflict => "error: '--verify-all' cannot be used with '--verify-count'"

/-- Why reading the arguments did not lead to options. -/
inductive Stop where
  /-- Help was asked for. -/
  | help
  /-- The version was asked for. -/
  | version
  /-- The arguments are wrong. -/
  | misuse (misuse : Misuse)
  deriving DecidableEq, Repr

/-! ### What has been given -/

/-- The options given so far. -/
structure Given where
  /-- See `Setting.backend`. -/
  backend : Option BackendChoice := none
  /-- See `Setting.elements`. -/
  elements : Option UInt64 := none
  /-- See `Setting.verifyCount`. -/
  verifyCount : Option UInt64 := none
  /-- See `Setting.fillA`. -/
  fillA : Option Int32 := none
  /-- See `Setting.fillB`. -/
  fillB : Option Int32 := none
  /-- See `Setting.kernel`. -/
  kernel : Option String := none
  /-- See `Setting.outDir`. -/
  outDir : Option String := none
  /-- See `Switch.verifyAll`. -/
  verifyAll : Bool := false
  /-- See `Switch.verbose`. -/
  verbose : Bool := false
  deriving DecidableEq, Repr

/-- An unsigned 64-bit number. -/
def count? (text : String) : Option UInt64 := do
  Decimal.word? (← Decimal.natural? text.toList)

/-- A signed 32-bit number. -/
def fill? (text : String) : Option Int32 := do
  Decimal.int32? (← Decimal.integer? text.toList)

/-- A backend. -/
def backend? (text : String) : Option BackendChoice :=
  [BackendChoice.host, .opencl].find? fun choice => choice.key = text

namespace Given

/-- The value of an option that had the given one before. -/
def assign {α : Type} (setting : Setting) (text : String) (before value : Option α) :
    Except Stop (Option α) :=
  match before, value with
  | some _, _ => .error (.misuse (.repeated setting.name))
  | none, none => .error (.misuse (.invalidValue setting.name text))
  | none, some value => .ok (some value)

/-- Takes an option with its value. -/
def set (given : Given) (setting : Setting) (text : String) : Except Stop Given := do
  match setting with
  | .backend =>
    return { given with backend := ← assign setting text given.backend (backend? text) }
  | .elements =>
    return { given with elements := ← assign setting text given.elements (count? text) }
  | .verifyCount =>
    return { given with verifyCount := ← assign setting text given.verifyCount (count? text) }
  | .fillA => return { given with fillA := ← assign setting text given.fillA (fill? text) }
  | .fillB => return { given with fillB := ← assign setting text given.fillB (fill? text) }
  | .kernel => return { given with kernel := ← assign setting text given.kernel (some text) }
  | .outDir => return { given with outDir := ← assign setting text given.outDir (some text) }

/-- Takes a switch. -/
def turn (given : Given) (switch : Switch) : Except Stop Given :=
  match switch with
  | .help => .error .help
  | .version => .error .version
  | .verifyAll =>
    if given.verifyAll then .error (.misuse (.repeated switch.name))
    else .ok { given with verifyAll := true }
  | .verbose =>
    if given.verbose then .error (.misuse (.repeated switch.name))
    else .ok { given with verbose := true }

/-- Takes a row of switches, each by its letter. -/
def turnAll (given : Given) : List Char → Except Stop Given
  | [] => .ok given
  | letter :: letters =>
    match Switch.all.find? fun switch => switch.letter? = some letter with
    | none => .error (.misuse (.unexpected ("-" ++ letter.toString)))
    | some switch => do turnAll (← given.turn switch) letters

/-- The options that the arguments as a whole amount to. What was not given is as in the default
    configuration. -/
def options (given : Given) : Except Stop Options := do
  let default : Config := {}
  let sample ←
    match given.verifyAll, given.verifyCount with
    | true, some _ => .error (.misuse .conflict)
    | true, none => .ok Sample.all
    | false, some count => .ok (Sample.leading count)
    | false, none => .ok default.sample
  return {
    backend := given.backend.getD .host
    config :=
      { default with
        elements := given.elements.getD default.elements
        fillA := given.fillA.getD default.fillA
        fillB := given.fillB.getD default.fillB
        sample := sample }
    kernel := given.kernel
    outDir := given.outDir
    verbose := given.verbose }

end Given

/-! ### Reading -/

/-- The forms of an argument. -/
inductive Form where
  /-- Two dashes alone: no options follow. -/
  | stop
  /-- Two dashes and a name, and a value behind an equals sign. -/
  | long (name : String) (value : Option String)
  /-- One dash and letters. -/
  | short (letters : List Char)
  /-- Anything else, a single dash among it. -/
  | plain
  deriving DecidableEq, Repr

/-- The form of an argument. -/
def Form.ofText : List Char → Form
  | ['-', '-'] => stop
  | '-' :: '-' :: text =>
    let value := text.dropWhile (· ≠ '=')
    long (String.ofList (text.takeWhile (· ≠ '=')))
      (if value.isEmpty then none else some (String.ofList (value.drop 1)))
  | '-' :: letter :: letters => short (letter :: letters)
  | _ => plain

/-- An argument can be the value of the option before it. -/
def Setting.accepts (setting : Setting) (argument : String) : Bool :=
  match Form.ofText argument.toList with
  | .plain => true
  | .short letters => setting.takesInteger && letters.all Char.isDigit
  | _ => false

/-- Reads arguments after those given so far. An option may be waiting for its value. -/
def Given.read (given : Given) : Option Setting → List String → Except Stop Given
  | none, [] => .ok given
  | some setting, [] => .error (.misuse (.missingValue setting.name))
  | some setting, argument :: arguments =>
    if setting.accepts argument then do
      (← given.set setting argument).read none arguments
    else .error (.misuse (.missingValue setting.name))
  | none, argument :: arguments =>
    match Form.ofText argument.toList with
    | .plain => .error (.misuse (.unexpected argument))
    | .stop =>
      match arguments with
      | [] => .ok given
      | next :: _ => .error (.misuse (.unexpected next))
    | .short letters => do (← given.turnAll letters).read none arguments
    | .long name value =>
      match Setting.all.find? fun setting => setting.name = name with
      | some setting =>
        match value with
        | some text => do (← given.set setting text).read none arguments
        | none => given.read (some setting) arguments
      | none =>
        match Switch.all.find? fun switch => switch.name = name with
        | none => .error (.misuse (.unexpected argument))
        | some switch =>
          if value.isSome then .error (.misuse (.valueRefused name))
          else do (← given.turn switch).read none arguments

/-- Reads all arguments. -/
def Options.read (arguments : List String) : Except Stop Options := do
  (← Given.read {} none arguments).options

end Offload.CommandLine
