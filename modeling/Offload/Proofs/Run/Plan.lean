import Offload.Proofs.Run.Recorded

/-!
# The plan of a run

A run on a device follows one plan, whatever the backend answers (`Run.plan`). What each action of
the plan calls depends only on the device, the configuration and what the backend has handed out
before (`Run.Action.request?`). The first call that is refused, the first pair of stamps that runs
backwards, or an element count that the kernel cannot hold stops the run, and fixes the failure and
what is still called: the log of a failed build, and what it takes to settle commands that have been
submitted (`Run.Halts`).

`Run.onDevice_conducted` says that every run has gone through its plan like this.
-/

namespace Offload.Run

/-! ### What the backend hands out -/

/-- What a backend has handed out to a run. -/
structure Handed (H : Handles) where
  /-- The context. -/
  context? : Option H.Context := none
  /-- The queue. -/
  queue? : Option H.Queue := none
  /-- The program. -/
  program? : Option H.Program := none
  /-- The kernel. -/
  kernel? : Option H.Kernel := none
  /-- The buffers, in order. -/
  buffers : List H.Buffer := []
  /-- The events, in order. -/
  events : List H.Event := []

variable {H : Handles}

/-- What has been handed out after one more answer. -/
def Handed.receive (handed : Handed H) : (request : Request H) → request.Answer → Handed H
  | .createContext _, .ok context => { handed with context? := some context }
  | .createQueue _ _ _, .ok queue => { handed with queue? := some queue }
  | .createProgram _ _, .ok program => { handed with program? := some program }
  | .createKernel _ _ _ _, .ok kernel => { handed with kernel? := some kernel }
  | .createBuffer _ _ _ _, .ok buffer => { handed with buffers := handed.buffers ++ [buffer] }
  | .enqueueWrite _ _ _ _ _, .ok event | .enqueueKernel _ _ _ _, .ok event
  | .enqueueRead _ _ _ _ _, (.ok event, _) => { handed with events := handed.events ++ [event] }
  | _, _ => handed

/-- The status of an answer that refuses. -/
def status? {α : Type} : Except Status α → Option Status
  | .ok _ => none
  | .error status => some status

/-- The status with which a request is refused, if it is. -/
def refusal? : (request : Request H) → request.Answer → Option Status
  | .platforms, answer => status? answer
  | .createContext _, answer => status? answer
  | .createQueue _ _ _, answer => status? answer
  | .createBuffer _ _ _ _, answer => status? answer
  | .createProgram _ _, answer => status? answer
  | .buildProgram _ _, answer => status? answer
  | .buildLog _ _, answer => status? answer
  | .createKernel _ _ _ _, answer => status? answer
  | .setKernelArg _ _ _, answer => status? answer
  | .enqueueWrite _ _ _ _ _, answer => status? answer
  | .enqueueKernel _ _ _ _, answer => status? answer
  | .enqueueRead _ _ _ _ _, answer => status? answer.1
  | .finish _, answer => status? answer
  | .waitEvents _, answer => status? answer
  | .profiling _, answer => status? answer

/-- The stamps that a request has got, if they run backwards. -/
def backwards? : (request : Request H) → request.Answer → Option Stamps
  | .profiling _, .ok stamps => if stamps.start ≤ stamps.stop then none else some stamps
  | _, _ => none

/-! ### The plan -/

/-- What a run does one after the other: its calls, and one check of its own. -/
inductive Action where
  /-- Make the context. -/
  | createContext
  /-- Make the queue, with timestamps. -/
  | createQueue
  /-- Hand in the program text. -/
  | createProgram
  /-- Build the program. -/
  | buildProgram
  /-- Make the kernel. -/
  | createKernel
  /-- Allocate a buffer. -/
  | createBuffer (role : Role)
  /-- Check that the kernel can hold the element count. -/
  | checkCount
  /-- Bind an argument of the kernel. -/
  | setKernelArg (index : Nat)
  /-- Submit the command of a stage. -/
  | enqueue (stage : Stage)
  /-- Drain the queue. -/
  | finish
  /-- Read the stamps of a stage. -/
  | profiling (stage : Stage)

/-- The plan of every run. -/
def plan : List Action :=
  [.createContext, .createQueue, .createProgram, .buildProgram, .createKernel,
    .createBuffer .a, .createBuffer .b, .createBuffer .c, .checkCount,
    .setKernelArg 0, .setKernelArg 1, .setKernelArg 2, .setKernelArg 3,
    .enqueue .writeA, .enqueue .writeB, .enqueue .kernel, .enqueue .readC, .finish,
    .profiling .writeA, .profiling .writeB, .profiling .kernel, .profiling .readC]

/-- The arguments of the kernel: the three buffers and the element count. -/
def Handed.arguments (handed : Handed H) (config : Config) : List (Argument H.Buffer) :=
  handed.buffers.map .buffer ++ [.int (Int32.ofNat config.elements.toNat)]

variable (device : H.Device) (config : Config)

/-- The call that submits the command of a stage. The uploads wait for nothing, the kernel for both
    of them, and the download for the kernel. -/
def enqueueRequest? (handed : Handed H) (stage : Stage) : Option (Request H) :=
  let vectors := Vectors.filled config.elements.toNat config.fillA config.fillB
  match stage, handed.queue?, handed.kernel?, handed.buffers, handed.events with
  | .writeA, some queue, _, [a, _, _], [] => some (.enqueueWrite queue a false vectors.a [])
  | .writeB, some queue, _, [_, b, _], [_] => some (.enqueueWrite queue b false vectors.b [])
  | .kernel, some queue, some kernel, _, [writeA, writeB] =>
    some (.enqueueKernel queue kernel config.elements [writeA, writeB])
  | .readC, some queue, _, [_, _, c], [_, _, added] =>
    some (.enqueueRead queue c true vectors.c [added])
  | _, _, _, _, _ => none

/-- The event of a stage, once all four have been handed out. -/
def Handed.event? (handed : Handed H) (stage : Stage) : Option H.Event :=
  match handed.events with
  | [writeA, writeB, kernel, readC] =>
    some ((⟨writeA, writeB, kernel, readC⟩ : StageEvents H.Event).get stage)
  | _ => none

/-- The call of an action, by what has been handed out before. -/
def Action.request? (handed : Handed H) : Action → Option (Request H)
  | createContext => some (.createContext device)
  | createQueue => do return .createQueue (← handed.context?) device true
  | createProgram => do return .createProgram (← handed.context?) config.kernelSource
  | buildProgram => do return .buildProgram (← handed.program?) device
  | createKernel => do
    return .createKernel (← handed.program?) (← handed.queue?) config.entryPoint vectorAddParams
  | createBuffer role => do
    return .createBuffer (← handed.context?) (← handed.queue?) role.access config.elements
  | checkCount => none
  | setKernelArg index => do
    return .setKernelArg (← handed.kernel?) index (← (handed.arguments config)[index]?)
  | enqueue stage => enqueueRequest? config handed stage
  | finish => do return .finish (← handed.queue?)
  | profiling stage => do return .profiling (← handed.event? stage)

/-! ### What happens to the plan -/

/-- Actions that all went well: each call was accepted, and stamps do not run backwards. -/
inductive Went : Handed H → List Action → List (Exchange H) → Handed H → Prop
  | done {handed : Handed H} : Went handed [] [] handed
  | counted {handed last : Handed H} {actions : List Action} {made : List (Exchange H)} :
      config.elements ≤ maxElements → Went handed actions made last →
      Went handed (.checkCount :: actions) made last
  | call {handed last : Handed H} {action : Action} {actions : List Action}
      {made : List (Exchange H)} {request : Request H} {answer : request.Answer} :
      action.request? device config handed = some request → refusal? request answer = none →
      backwards? request answer = none → Went (handed.receive request answer) actions made last →
      Went handed (action :: actions) (⟨request, answer⟩ :: made) last

/-- What a run still calls when the call of an action has been refused, and its failure. Where a
    command has been refused, the queue is drained, and where it cannot be drained the events handed
    out are waited for. -/
inductive Ends (handed : Handed H) (status : Status) :
    Action → List (Exchange H) → Failure → Prop
  | createContext : Ends handed status .createContext [] (.contextCreation status)
  | createQueue : Ends handed status .createQueue [] (.queueCreation status)
  | createProgram : Ends handed status .createProgram [] (.build status "")
  | buildProgram {program : H.Program} {answer : Except Status String} :
      handed.program? = some program →
      Ends handed status .buildProgram [⟨.buildLog program device, answer⟩]
        (.build status (match answer with | .ok log => log | .error status => missingLog status))
  | createKernel : Ends handed status .createKernel [] (.entryPoint config.entryPoint status)
  | createBuffer {role : Role} :
      Ends handed status (.createBuffer role) [] (.allocation role status)
  | setKernelArg {index : Nat} :
      Ends handed status (.setKernelArg index) [] (.kernelArgument index status)
  | drained {stage : Stage} {queue : H.Queue} : handed.queue? = some queue →
      Ends handed status (.enqueue stage) [⟨.finish queue, .ok ()⟩] (.enqueue stage status)
  | undrained {stage : Stage} {queue : H.Queue} {refused : Status} {answer : Except Status Unit} :
      handed.queue? = some queue →
      Ends handed status (.enqueue stage)
        [⟨.finish queue, .error refused⟩, ⟨.waitEvents handed.events, answer⟩]
        (.enqueue stage status)
  | finish {answer : Except Status Unit} :
      Ends handed status .finish [⟨.waitEvents handed.events, answer⟩] (.drain status)
  | profiling {stage : Stage} : Ends handed status (.profiling stage) [] (.profiling stage status)

/-- How an action stops a run: what it and the clean-up after it call, and the failure. -/
inductive Halts (handed : Handed H) : Action → List (Exchange H) → Failure → Prop
  | tooMany : maxElements < config.elements → Halts handed .checkCount []
      (.invalidConfig ("element count " ++ toString config.elements.toNat ++ " exceeds i32"))
  | refused {action : Action} {request : Request H} {answer : request.Answer} {status : Status}
      {after : List (Exchange H)} {failure : Failure} :
      action.request? device config handed = some request →
      refusal? request answer = some status →
      Ends device config handed status action after failure →
      Halts handed action (⟨request, answer⟩ :: after) failure
  | backwards {stage : Stage} {request : Request H} {answer : request.Answer} {stamps : Stamps} :
      (Action.profiling stage).request? device config handed = some request →
      backwards? request answer = some stamps →
      Halts handed (.profiling stage) [⟨request, answer⟩]
        (.nonMonotonicTimestamps stage stamps.start stamps.stop)

/-- Actions of which one stopped the run, after those before it went well. -/
def Stopped (handed : Handed H) (actions : List Action) (made : List (Exchange H))
    (failure : Failure) : Prop :=
  ∃ before action rest first last reached, actions = before ++ action :: rest ∧
    made = first ++ last ∧ Went device config handed before first reached ∧
    Halts device config reached action last failure

/-- How a run went through its actions, by its result. -/
def Conducted {α : Type} (handed : Handed H) (actions : List Action) (after : α → Handed H → Prop)
    (made : List (Exchange H)) : Except Failure α → Prop
  | .ok a => ∃ last, Went device config handed actions made last ∧ after a last
  | .error failure => Stopped device config handed actions made failure

/-! ### Putting actions together -/

section

variable {device config} {handed reached last : Handed H} {actions rest : List Action}
  {made new : List (Exchange H)} {failure : Failure}

theorem Went.append (h : Went device config handed actions made reached)
    (hrest : Went device config reached rest new last) :
    Went device config handed (actions ++ rest) (made ++ new) last := by
  induction h with
  | done => exact hrest
  | counted hcount _ ih => exact .counted hcount (ih hrest)
  | call hrequest haccepted hforwards _ ih => exact .call hrequest haccepted hforwards (ih hrest)

/-- An action stops the run, whatever was to follow. -/
theorem Halts.stopped {action : Action} (h : Halts device config handed action made failure)
    (rest : List Action) : Stopped device config handed (action :: rest) made failure :=
  ⟨[], action, rest, [], made, handed, rfl, rfl, .done, h⟩

theorem Stopped.append (h : Stopped device config handed actions made failure)
    (rest : List Action) : Stopped device config handed (actions ++ rest) made failure := by
  obtain ⟨before, action, others, first, after, reached, rfl, hmade, hwent, hhalts⟩ := h
  exact ⟨before, action, others ++ rest, first, after, reached, by simp, hmade, hwent, hhalts⟩

theorem Went.stopped (h : Went device config handed actions made reached)
    (hstopped : Stopped device config reached rest new failure) :
    Stopped device config handed (actions ++ rest) (made ++ new) failure := by
  obtain ⟨before, action, others, first, after, middle, rfl, rfl, hwent, hhalts⟩ := hstopped
  exact ⟨actions ++ before, action, others, made ++ first, after, middle, by simp, by simp,
    h.append hwent, hhalts⟩

theorem Went.conducted {α : Type} {after : α → Handed H → Prop} {result : Except Failure α}
    (h : Went device config handed actions made reached)
    (hrest : Conducted device config reached rest after new result) :
    Conducted device config handed (actions ++ rest) after (made ++ new) result := by
  cases result with
  | error failure => exact h.stopped hrest
  | ok a =>
    obtain ⟨last, hwent, ha⟩ := hrest
    exact ⟨last, h.append hwent, ha⟩

theorem Conducted.mono {α : Type} {after after' : α → Handed H → Prop} {result : Except Failure α}
    (hafter : ∀ a last, after a last → after' a last)
    (h : Conducted device config handed actions after made result) :
    Conducted device config handed actions after' made result := by
  cases result with
  | error failure => exact h
  | ok a =>
    obtain ⟨last, hwent, ha⟩ := h
    exact ⟨last, hwent, hafter a last ha⟩

end

/-- A call is accepted, and something is handed out, or it is refused, and nothing is left to do. -/
theorem Conducted.call {α : Type} {device : H.Device} {config : Config} {handed : Handed H}
    {action : Action} {request : Request H} {answer : request.Answer} {result : Except Status α}
    {failure : Status → Failure} (receive : α → Handed H)
    (hrequest : action.request? device config handed = some request)
    (hrefusal : refusal? request answer = status? result)
    (hforwards : backwards? request answer = none)
    (hends : ∀ status, Ends device config handed status action [] (failure status))
    (hreceive : ∀ a, result = .ok a → handed.receive request answer = receive a) :
    Conducted device config handed [action] (fun a last => last = receive a) [⟨request, answer⟩]
      (result.mapError failure) := by
  cases result with
  | error status => exact Halts.stopped (.refused hrequest hrefusal (hends status)) []
  | ok a => exact ⟨_, .call hrequest hrefusal hforwards .done, hreceive a rfl⟩

/-! ### Attempts that go through actions -/

section

variable {B : Backend Id} {κ : Type} {α β : Type} {device : B.handles.Device} {config : Config}
  {handed : Handed B.handles} {actions rest : List Action} {after : α → Handed B.handles → Prop}

theorem Emits.conducted_andThen {attempt : Attempt B.recorded κ α}
    {next : α → Attempt B.recorded κ β} {last : β → Handed B.handles → Prop}
    (h : Emits attempt.run (Conducted device config handed actions after))
    (hnext : ∀ a reached, after a reached →
      Emits (next a).run (Conducted device config reached rest last)) :
    Emits (attempt >>= next).run (Conducted device config handed (actions ++ rest) last) := by
  refine h.andThen (fun made failure hstopped => Stopped.append hstopped rest) ?_
  rintro made a ⟨reached, hwent, ha⟩
  exact (hnext a reached ha).mono fun new result hresult => hwent.conducted hresult

theorem Emits.conducted_cons {action : Action} {attempt : Attempt B.recorded κ α}
    {next : α → Attempt B.recorded κ β} {last : β → Handed B.handles → Prop}
    (h : Emits attempt.run (Conducted device config handed [action] after))
    (hnext : ∀ a reached, after a reached →
      Emits (next a).run (Conducted device config reached rest last)) :
    Emits (attempt >>= next).run (Conducted device config handed (action :: rest) last) :=
  h.conducted_andThen hnext

theorem Emits.conducted_orFail {run : Run B.recorded κ (Except Status α)}
    {failure : Status → Failure}
    (h : Emits run fun made answer =>
      Conducted device config handed actions after made (answer.mapError failure)) :
    Emits (Run.orFail run failure).run (Conducted device config handed actions after) := by
  refine Emits.bind h fun made answer hmade => ?_
  cases answer <;> exact Emits.pure (by rwa [List.append_nil])

end

/-! ### The set-up -/

section

/-- What has been handed out once there are a context and a queue. -/
def acquired (resources : Resources H) : Handed H :=
  { context? := some resources.context, queue? := some resources.queue }

/-- What has been handed out once the kernel has been made. -/
def built (resources : Resources H) (program : H.Program) (kernel : H.Kernel) : Handed H :=
  { acquired resources with program? := some program, kernel? := some kernel }

/-- What has been handed out once the buffers have been allocated. -/
def equipped (resources : Resources H) (program : H.Program) (kernel : H.Kernel)
    (buffers : Buffers H) : Handed H :=
  { built resources program kernel with buffers := [buffers.a, buffers.b, buffers.c] }

variable {B : Backend Id} {κ : Type} (device : B.handles.Device) (config : Config)
  (resources : Resources B.handles)

theorem acquire_conducted :
    Emits (acquire (B := B.recorded) (κ := κ) device).run
      (Conducted device config {} [.createContext, .createQueue]
        fun resources handed => handed = acquired resources) := by
  unfold acquire
  refine .conducted_cons (.conducted_orFail (.ask fun answer =>
    .call (fun context => { context? := some context }) rfl rfl rfl (fun _ => .createContext)
      (by rintro _ rfl; rfl))) ?_
  rintro context _ rfl
  refine .conducted_cons (.conducted_orFail (.ask fun answer =>
    .call (fun queue => acquired ⟨context, queue⟩) rfl rfl rfl (fun _ => .createQueue)
      (by rintro _ rfl; rfl))) ?_
  rintro queue _ rfl
  exact .always_andThen (.note_bind (.pure ⟨_, .done, rfl⟩))

theorem compile_conducted :
    Emits (compile (B := B.recorded) (κ := κ) resources device config.kernelSource).run
      (Conducted device config (acquired resources) [.createProgram, .buildProgram]
        fun program handed => handed = { acquired resources with program? := some program }) := by
  unfold compile
  refine .conducted_cons (.conducted_orFail (.ask fun answer =>
    .call (fun program => { acquired resources with program? := some program }) rfl rfl rfl
      (fun _ => .createProgram) (by rintro _ rfl; rfl))) ?_
  rintro program _ rfl
  refine .always_andThen (.ask_bind fun answer => ?_)
  cases answer with
  | ok _ => exact .always_andThen (.note_bind (.pure ⟨_, .call rfl rfl rfl .done, rfl⟩))
  | error status =>
    refine .always_andThen (.ask_bind fun log => ?_)
    have hends : Ends device config { acquired resources with program? := some program } status
        .buildProgram [⟨.buildLog program device, log⟩] _ := .buildProgram rfl
    cases log <;>
      exact .always_andThen (.note_bind (.pure (Halts.stopped (.refused rfl rfl hends) [])))

theorem build_conducted :
    Emits (build (B := B.recorded) (κ := κ) resources device config.kernelSource
        config.entryPoint).run
      (Conducted device config (acquired resources) [.createProgram, .buildProgram, .createKernel]
        fun kernel handed => ∃ program, handed = built resources program kernel) := by
  refine (compile_conducted device config resources).conducted_andThen ?_
  rintro program _ rfl
  refine .conducted_orFail (.ask fun answer => Conducted.mono ?_ (.call (built resources program)
    rfl rfl rfl (fun _ => .createKernel) (by rintro _ rfl; rfl)))
  exact fun kernel handed hhanded => ⟨program, hhanded⟩

theorem allocate_conducted (program : B.handles.Program) (kernel : B.handles.Kernel) :
    Emits (allocate (B := B.recorded) (κ := κ) resources config.elements).run
      (Conducted device config (built resources program kernel)
        [.createBuffer .a, .createBuffer .b, .createBuffer .c] fun buffers handed =>
          buffers.size = config.elements ∧ handed = equipped resources program kernel buffers) := by
  unfold allocate
  refine .conducted_cons (.conducted_orFail (.ask fun answer =>
    .call (fun a => { built resources program kernel with buffers := [a] }) rfl rfl rfl
      (fun _ => .createBuffer) (by rintro _ rfl; rfl))) ?_
  rintro a _ rfl
  refine .conducted_cons (.conducted_orFail (.ask fun answer =>
    .call (fun b => { built resources program kernel with buffers := [a, b] }) rfl rfl rfl
      (fun _ => .createBuffer) (by rintro _ rfl; rfl))) ?_
  rintro b _ rfl
  refine .conducted_cons (.conducted_orFail (.ask fun answer =>
    .call (fun c => { built resources program kernel with buffers := [a, b, c] }) rfl rfl rfl
      (fun _ => .createBuffer) (by rintro _ rfl; rfl))) ?_
  rintro c _ rfl
  exact .always_andThen (.note_bind (.pure ⟨_, .done, rfl, rfl⟩))

end

/-! ### Execution -/

section

variable {B : Backend Id} {κ : Type} {device : B.handles.Device} {config : Config}
  {handed : Handed B.handles}

/-- Arguments are bound one after the other. -/
theorem bindArguments_conducted {kernel : B.handles.Kernel} (hkernel : handed.kernel? = some kernel)
    (index : Nat) (args : List (Argument B.handles.Buffer))
    (hargs : (handed.arguments config).drop index = args) :
    Emits (bindArguments (B := B.recorded) kernel index args : Run _ κ _)
      (Conducted device config handed ((List.range' index args.length).map .setKernelArg)
        fun _ last => last = handed) := by
  induction args generalizing index with
  | nil => exact .pure ⟨_, .done, rfl⟩
  | cons arg args ih =>
    have harg : (handed.arguments config)[index]? = some arg := by
      rw [← List.head?_drop, hargs, List.head?_cons]
    have hrequest : (Action.setKernelArg index).request? device config handed =
        some (.setKernelArg kernel index arg) := by
      simp only [Action.request?, hkernel, harg]
      rfl
    refine .ask_bind fun answer => ?_
    cases answer with
    | error status => exact .pure (Halts.stopped (.refused hrequest rfl .setKernelArg) _)
    | ok _ =>
      have hrest : (handed.arguments config).drop (index + 1) = args := by
        rw [← List.drop_drop, hargs, List.drop_one, List.tail_cons]
      exact (ih (index + 1) hrest).mono fun new result hresult =>
        Went.conducted (.call hrequest rfl rfl .done) hresult

/-- What has been handed out once the four commands have been submitted. -/
def Handed.completed (handed : Handed H) (events : StageEvents H.Event) : Handed H :=
  { handed with events := [events.writeA, events.writeB, events.kernel, events.readC] }

/-- How the submission of the four commands has gone, by its result: all were accepted, or the first
    that was refused ended it. -/
inductive Submitted (device : H.Device) (config : Config) (handed : Handed H)
    (made : List (Exchange H)) : Submission H.Event → Prop
  | complete {events : StageEvents H.Event} {submitted : List H.Event} {vectors : Vectors} :
      Went device config handed (Stage.all.map .enqueue) made { handed with events := submitted } →
      submitted = [events.writeA, events.writeB, events.kernel, events.readC] →
      Submitted device config handed made ⟨submitted, .ok events, vectors⟩
  | refused (before : List Action) (first : List (Exchange H)) {stage : Stage}
      {rest : List Action} {reached : Handed H} {request : Request H} {answer : request.Answer}
      {status : Status} {submitted : List H.Event} {vectors : Vectors} :
      Stage.all.map .enqueue = before ++ .enqueue stage :: rest →
      made = first ++ [⟨request, answer⟩] → Went device config handed before first reached →
      (Action.enqueue stage).request? device config reached = some request →
      refusal? request answer = some status → reached.queue? = handed.queue? →
      reached.events = submitted →
      Submitted device config handed made ⟨submitted, .error (.enqueue stage status), vectors⟩

theorem submit_conducted (resources : Resources B.handles) (program : B.handles.Program)
    (kernel : B.handles.Kernel) (a b c : B.handles.Buffer) :
    Emits (submit (B := B.recorded) resources.queue kernel ⟨a, b, c, config.elements⟩
        (Vectors.filled config.elements.toNat config.fillA config.fillB) : Run _ κ _)
      (Submitted device config
        (equipped resources program kernel ⟨a, b, c, config.elements⟩)) := by
  unfold submit
  refine .ask_bind fun answer => ?_
  cases answer with
  | error status => exact .pure (.refused [] [] rfl rfl .done rfl rfl rfl rfl)
  | ok writeA =>
  refine .ask_bind fun answer => ?_
  cases answer with
  | error status => exact .pure (.refused [_] [_] rfl rfl (.call rfl rfl rfl .done) rfl rfl rfl rfl)
  | ok writeB =>
  refine .ask_bind fun answer => ?_
  cases answer with
  | error status =>
    exact .pure (.refused [_, _] [_, _] rfl rfl (.call rfl rfl rfl (.call rfl rfl rfl .done)) rfl
      rfl rfl rfl)
  | ok added =>
  refine .ask_bind fun ⟨answer, out⟩ => ?_
  cases answer with
  | error status =>
    exact .pure (.refused [_, _, _] [_, _, _] rfl rfl
      (.call rfl rfl rfl (.call rfl rfl rfl (.call rfl rfl rfl .done))) rfl rfl rfl rfl)
  | ok readC =>
    exact .pure (.complete
      (.call rfl rfl rfl (.call rfl rfl rfl (.call rfl rfl rfl (.call rfl rfl rfl .done)))) rfl)

/-- How submitted commands have been settled, by whether the queue was drained. -/
inductive SettledBy (queue : H.Queue) (submitted : List H.Event) :
    List (Exchange H) → Except Status Unit → Prop
  | drained : SettledBy queue submitted [⟨.finish queue, .ok ()⟩] (.ok ())
  | waited {status : Status} {answer : Except Status Unit} :
      SettledBy queue submitted [⟨.finish queue, .error status⟩, ⟨.waitEvents submitted, answer⟩]
        (.error status)

theorem settle_conducted (queue : B.handles.Queue) (submitted : List B.handles.Event)
    (vectors : Vectors) :
    Emits (settle (B := B.recorded) queue submitted vectors : Run _ κ _)
      fun made settled => SettledBy queue submitted made settled.1 := by
  unfold settle
  refine .ask_bind fun answer => ?_
  cases answer with
  | ok _ => exact .pure .drained
  | error status =>
    refine .ask_bind fun answer => ?_
    cases answer with
    | ok _ => exact .pure .waited
    | error stuck => exact .note_bind (.pure .waited)

/-- The failure of a submission outweighs that of the drain after it. -/
def concluded {α : Type} : Except Failure α → Except Status Unit → Except Failure α
  | .error failure, _ => .error failure
  | .ok _, .error status => .error (.drain status)
  | .ok a, .ok () => .ok a

/-- The four commands and the drain, by their result. -/
theorem Submitted.conducted {queue : B.handles.Queue} {made new : List (Exchange B.handles)}
    {submission : Submission B.handles.Event} {drained : Except Status Unit}
    (h : Submitted device config handed made submission) (hqueue : handed.queue? = some queue)
    (hsettled : SettledBy queue submission.submitted new drained) :
    Conducted device config handed (Stage.all.map .enqueue ++ [.finish])
      (fun events last => last = handed.completed events) (made ++ new)
      (concluded submission.outcome drained) := by
  cases h with
  | complete hwent hsubmitted =>
    subst hsubmitted
    have hrequest (events : List B.handles.Event) :
        Action.finish.request? device config { handed with events } = some (.finish queue) := by
      simp only [Action.request?, hqueue]
      rfl
    cases hsettled with
    | drained => exact ⟨_, hwent.append (.call (hrequest _) rfl rfl .done), rfl⟩
    | waited => exact hwent.stopped (Halts.stopped (.refused (hrequest _) rfl .finish) [])
  | refused before first hactions hmade hwent hcall hrefused hsame hevents =>
    subst hevents
    rename_i stage rest reached request answer status vectors
    have hreached := hsame.trans hqueue
    have hends : Ends device config reached status (.enqueue stage) new
        (.enqueue stage status) := by
      cases hsettled with
      | drained => exact .drained hreached
      | waited => exact .undrained hreached
    have hstopped := (Halts.refused hcall hrefused hends).stopped rest
    rw [hmade, List.append_assoc, hactions]
    exact (hwent.stopped hstopped).append [.finish]

theorem execute_conducted [Clock Id κ] (device : B.handles.Device) (config : Config)
    (resources : Resources B.handles) (program : B.handles.Program) (kernel : B.handles.Kernel)
    (a b c : B.handles.Buffer) :
    let handed := equipped resources program kernel ⟨a, b, c, config.elements⟩
    Emits (execute (B := B.recorded) resources kernel ⟨a, b, c, config.elements⟩
        (Vectors.filled config.elements.toNat config.fillA config.fillB) : Run _ κ _)
      fun made result => Conducted device config handed
        [.checkCount, .setKernelArg 0, .setKernelArg 1, .setKernelArg 2, .setKernelArg 3,
          .enqueue .writeA, .enqueue .writeB, .enqueue .kernel, .enqueue .readC, .finish]
        (fun execution last => last = handed.completed execution.events) made result.1 := by
  intro handed
  unfold execute
  split
  · rename_i hlarge
    exact .pure (Halts.stopped (.tooMany hlarge) _)
  · rename_i hsmall
    have hcount : Went device config handed [.checkCount] [] handed :=
      .counted (UInt64.not_lt.1 hsmall) .done
    have hbind : Emits (bindArguments (B := B.recorded) kernel 0 (handed.arguments config) :
        Run _ κ _) (Conducted device config handed [.setKernelArg 0, .setKernelArg 1,
          .setKernelArg 2, .setKernelArg 3] fun _ last => last = handed) :=
      bindArguments_conducted rfl 0 _ rfl
    refine hbind.bind fun bound answer hbound => ?_
    cases answer with
    | error failure =>
      refine .pure ?_
      rw [List.append_nil]
      exact hcount.stopped (Stopped.append hbound _)
    | ok _ =>
      obtain ⟨_, hbound, rfl⟩ := hbound
      have hsubmit : Emits (submit (B := B.recorded) resources.queue kernel
          ⟨a, b, c, config.elements⟩ _ : Run _ κ _) (Submitted device config handed) :=
        submit_conducted resources program kernel a b c
      refine .now_bind fun start => hsubmit.bind fun made submission hsubmitted =>
        (settle_conducted _ _ _).bind fun new ⟨drained, left⟩ hsettled => ?_
      have hconducted := (hcount.append hbound).conducted (hsubmitted.conducted rfl hsettled)
      rw [← List.append_nil new] at hconducted
      cases houtcome : submission.outcome with
      | error failure =>
        rw [houtcome] at hconducted
        cases drained with
        | error status => exact .note_bind (.pure hconducted)
        | ok _ => exact .pure hconducted
      | ok events =>
        rw [houtcome] at hconducted
        cases drained with
        | error status => exact .pure hconducted
        | ok _ => exact .now_bind fun stop => .note_bind (.pure hconducted)

end

/-! ### Reports -/

section

variable {B : Backend Id} {κ : Type} {device : B.handles.Device} {config : Config}
  {handed : Handed B.handles}

theorem stageTime_conducted {event : B.handles.Event} {stage : Stage}
    (hevent : handed.event? stage = some event) :
    Emits (stageTime (B := B.recorded) (κ := κ) event stage).run
      (Conducted device config handed [.profiling stage] fun _ last => last = handed) := by
  have hrequest : (Action.profiling stage).request? device config handed =
      some (.profiling event) := by
    simp only [Action.request?, hevent]
    rfl
  have hask : Emits (orFail (ask (B := B.recorded) (κ := κ) (.profiling event))
      (.profiling stage)).run fun made result =>
        match result with
        | .error failure => Stopped device config handed [.profiling stage] made failure
        | .ok stamps => made = [⟨.profiling event, .ok stamps⟩] := by
    refine .ask_bind fun answer => ?_
    cases answer with
    | error status => exact .pure (Halts.stopped (.refused hrequest rfl .profiling) [])
    | ok stamps => exact .pure rfl
  refine hask.andThen (fun _ _ hstopped => hstopped) ?_
  rintro _ stamps rfl
  by_cases hforwards : stamps.start ≤ stamps.stop
  · rw [Stamps.elapsed?, if_pos hforwards]
    exact .pure ⟨_, .call hrequest rfl (if_pos hforwards) .done, rfl⟩
  · have hbackwards : backwards? (H := B.handles) (.profiling event) (.ok stamps) = some stamps :=
      if_neg hforwards
    rw [Stamps.elapsed?, if_neg hforwards]
    exact .pure (Halts.stopped (.backwards hrequest hbackwards) [])

theorem collect_conducted (execution : Execution B.handles.Event) (vectors : Vectors)
    (sample : Sample) :
    Emits (collect (B := B.recorded) (κ := κ) execution vectors sample).run
      (Conducted device config (handed.completed execution.events) [.profiling .writeA,
        .profiling .writeB, .profiling .kernel, .profiling .readC] fun _ _ => True) := by
  unfold collect
  refine .conducted_cons (stageTime_conducted rfl) ?_
  rintro writeA _ rfl
  refine .conducted_cons (stageTime_conducted rfl) ?_
  rintro writeB _ rfl
  refine .conducted_cons (stageTime_conducted rfl) ?_
  rintro kernel _ rfl
  refine .conducted_cons (stageTime_conducted rfl) ?_
  rintro readC _ rfl
  exact .pure ⟨_, .done, trivial⟩

/-- A run on a device goes through the plan. -/
theorem onDevice_emits [Clock Id κ] (device : B.handles.Device) (config : Config) :
    Emits (onDevice (B := B.recorded) (κ := κ) device config).run
      (Conducted device config {} plan fun _ _ => True) := by
  unfold onDevice
  refine .conducted_andThen (acquire_conducted device config) ?_
  rintro resources _ rfl
  refine .conducted_andThen (build_conducted device config resources) ?_
  rintro kernel _ ⟨program, rfl⟩
  refine .conducted_andThen (allocate_conducted device config resources program kernel) ?_
  rintro ⟨a, b, c, size⟩ _ ⟨rfl, rfl⟩
  refine .always_andThen ((execute_conducted device config resources program kernel a b c).bind
    fun made ⟨outcome, vectors⟩ hmade => ?_)
  cases outcome with
  | error failure =>
    refine .pure ?_
    rw [List.append_nil]
    exact Stopped.append hmade _
  | ok execution =>
    obtain ⟨_, hwent, rfl⟩ := hmade
    exact (collect_conducted (B := B) execution vectors config.sample).mono
      fun new result hresult => hwent.conducted hresult

/-- A run on a device goes through the plan, whatever the backend answers: either all its actions go
    well, or the first one that does not stops the run, and fixes its failure and what is still
    called. -/
theorem onDevice_conducted [Clock Id κ] (device : B.handles.Device) (config : Config)
    (world : World B κ) :
    Conducted device config {} plan (fun _ _ => True)
      (Run.exchanges (onDevice (B := B.recorded) device config).run world)
      ((onDevice (B := B) device config).run world).1 := by
  have hsame : ((onDevice (B := B.recorded) device config).run world.recording).1 =
      ((onDevice (B := B) device config).run world).1 :=
    (Tracks.onDevice device config world.recording).1
  exact hsame ▸ (onDevice_emits device config).exchanges world

end

end Offload.Run
