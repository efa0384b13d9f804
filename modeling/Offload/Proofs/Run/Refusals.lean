import Offload.Proofs.Host.Timestamps
import Offload.Proofs.Run.Prepared

/-!
# Refusals

The host backend refuses a run on one of its devices for reasons that can all be read off the device
and the configuration, and in a fixed order (`Run.refusals`). All of them but the last, a count that
the kernel cannot take, show while the run is set up (`Run.prepare_decides`). Where none of them
applies, the run has a queue with timestamps, a kernel and three buffers of the size asked for, with
distinct inputs (`Run.Equipped`).
-/

namespace Offload

namespace Run

/-! ### Reasons -/

/-- The first declaration of a name in a program text, if the text is accepted. -/
def declaration? (source name : String) : Option Source.Declaration :=
  match Source.scan source with
  | .ok declared => declared.find? fun decl => decl.name = name
  | .error _ => none

/-- Why a device does not build a program text, in the order in which the reasons count. -/
def buildRefusals (device : Host.Device) (source : String) : List (Option Failure) :=
  [if Text.isBlankText source then some (.build .invalidValue "") else none,
   if device.hasCompiler then none
   else some (.build .compilerNotAvailable (Host.Program.noCompilerLog device)),
   match Source.scan source with
   | .ok _ => none
   | .error fault => some (.build .buildProgramFailure fault.message)]

/-- Why a program text that is accepted has no kernel to run, in the order in which the reasons
    count. -/
def entryRefusals (source name : String) : List (Option Failure) :=
  [if declaration? source name = none ∨ name ≠ "vecadd" then
     some (.entryPoint name .invalidKernelName)
   else none,
   if (declaration? source name).any (·.params ≠ 4) then
     some (.entryPoint name .invalidKernelDefinition)
   else none]

/-- The bytes of a buffer of so many elements cannot be counted, or the device does not allow as
    many. -/
def oversized (device : Host.Device) (elements : UInt64) : Bool :=
  UInt64.size ≤ 4 * elements.toNat || device.maxAllocBytes.any (·.toNat < 4 * elements.toNat)

/-- Why a run on a device cannot be set up, in the order in which the reasons count. -/
def setupRefusals (device : Host.Device) (source entryPoint : String) (elements : UInt64) :
    List (Option Failure) :=
  [device.contextFault.map .contextCreation, device.queueFault.map .queueCreation] ++
    buildRefusals device source ++ entryRefusals source entryPoint ++
    [if oversized device elements then some (.allocation .a .invalidBufferSize) else none]

/-- Why a run that has been set up is not executed: the kernel cannot count the elements. -/
def countRefusal? (elements : UInt64) : Option Failure :=
  if 2147483647 < elements.toNat then
    some (.invalidConfig ("element count " ++ toString elements.toNat ++ " exceeds i32"))
  else none

/-- Why a run on a device comes to no report, in the order in which the reasons count, unless it is
    for its timestamps. -/
def refusals (device : Host.Device) (config : Config) : List (Option Failure) :=
  setupRefusals device config.kernelSource config.entryPoint config.elements ++
    [countRefusal? config.elements]

/-! ### Context and queue -/

variable {κ κ' : Type} [Clock Id κ] {device : Host.Device} {queue : Host.QueueId}
  {state : Host.State κ}

/-- A host backend whose clock a device can use. -/
structure Startable (device : Host.Device) (state : Host.State κ) : Prop where
  reachable : state.Reachable
  steady : Clock.Steady device.backwardsClock state.store.clock

/-- The queue has been made for a device, with timestamps, and nothing is pending on it. -/
structure Opened (device : Host.Device) (queue : Host.QueueId) (state : Host.State κ) : Prop where
  startable : Startable device state
  found : state.queues[queue]? = some
    { order := device.order, profiling := true, backwardsClock := device.backwardsClock }

theorem Startable.answer (h : Startable device state) (request : Request Host.handles)
    (hquiet : Host.State.quiet request) :
    Startable device (Host.answer (m := Id) request state).state :=
  ⟨h.reachable.answer request, Host.State.clock_answer hquiet state ▸ h.steady⟩

theorem Opened.answer (h : Opened device queue state) (request : Request Host.handles)
    (hquiet : Host.State.quiet request) :
    Opened device queue (Host.answer (m := Id) request state).state :=
  ⟨h.startable.answer request hquiet, (Host.State.untouched_answer hquiet state).queues ▸ h.found⟩

theorem ask_host {request : Request Host.handles} {before : Host.State κ → Prop}
    {after : request.Answer → Host.State κ → Prop}
    (h : ∀ state, before state → after (Host.answer (m := Id) request state).answer
      (Host.answer (m := Id) request state).state) :
    Ensures (B := Host.backend Id κ) (ask request : Run _ κ' _) before after :=
  .ask h

theorem createContext_decided (device : Host.Device) :
    Ensures (B := Host.backend Id κ) (ask (.createContext device) : Run _ κ' _) (Startable device)
      (Decided device.contextFault fun (context : Host.Context) state =>
        context = ⟨device⟩ ∧ Startable device state) := by
  refine ask_host fun state h => ?_
  have hafter := h.answer (.createContext device) rfl
  simp only [Host.answer, Host.State.createContext] at *
  cases hfault : device.contextFault with
  | some status => rfl
  | none =>
    rw [hfault] at hafter
    exact ⟨_, rfl, rfl, hafter⟩

theorem createQueue_decided (device : Host.Device) :
    Ensures (B := Host.backend Id κ)
      (ask (.createQueue (Host.Context.mk device) device true) : Run _ κ' _) (Startable device)
      (Decided device.queueFault fun (queue : Host.QueueId) state =>
        Opened device queue state) := by
  refine ask_host fun state h => ?_
  have hreachable := h.reachable.answer (.createQueue ⟨device⟩ device true)
  simp only [Host.answer, Host.State.createQueue, ne_eq, not_true_eq_false, if_false] at *
  cases hfault : device.queueFault with
  | some status => rfl
  | none =>
    rw [hfault] at hreachable
    exact ⟨state.queues.size, rfl, ⟨hreachable, h.steady⟩, Array.getElem?_push_size⟩

theorem acquire_decides (device : Host.Device) :
    Decides (B := Host.backend Id κ) (acquire device : Attempt _ κ' _) (Startable device)
      ((device.contextFault.map .contextCreation).or (device.queueFault.map .queueCreation))
      fun resources state =>
        resources.context = ⟨device⟩ ∧ Opened device resources.queue state := by
  refine Decides.bind (.orFail (createContext_decided (κ := κ) device)) fun context => ?_
  refine Decides.given fun hcontext => ?_
  obtain rfl : context = ⟨device⟩ := hcontext
  refine Decides.bind_none (.orFail (createQueue_decided (κ := κ) device)) fun queue => ?_
  exact .bind_none (.always .note) fun _ => .pure fun _ h => ⟨rfl, h⟩

/-! ### Program and kernel -/

/-- The program has been built from a text, and declares what the text declares. -/
def Compiled (source : String) (program : Host.ProgramId) (state : Host.State κ) : Prop :=
  ∃ found, state.programs[program]? = some found ∧ found.built ∧
    Source.scan source = .ok found.declared

/-- Why a device cannot build a program text, and the log of the build. -/
def buildFault? (device : Host.Device) (source : String) : Option (Status × String) :=
  if device.hasCompiler then
    match Source.scan source with
    | .ok _ => none
    | .error fault => some (.buildProgramFailure, fault.message)
  else some (.compilerNotAvailable, Host.Program.noCompilerLog device)

theorem findSome?_id_cons (first : Option Failure) (rest : List (Option Failure)) :
    (first :: rest).findSome? id = first.or (rest.findSome? id) := by
  cases first <;> rfl

theorem map_ite_some {c : Prop} [Decidable c] {status : Status} (failure : Status → Failure) :
    (if c then some status else none).map failure = if c then some (failure status) else none := by
  split <;> rfl

theorem findSome?_buildRefusals (device : Host.Device) (source : String) :
    (buildRefusals device source).findSome? id =
      ((if Text.isBlankText source then some .invalidValue else none).map (.build · "")).or
        ((buildFault? device source).map fun fault => .build fault.1 fault.2) := by
  rw [buildRefusals, findSome?_id_cons, findSome?_id_cons, findSome?_id_cons, List.findSome?_nil,
    Option.or_none, buildFault?, map_ite_some]
  cases device.hasCompiler with
  | false => rfl
  | true => cases Source.scan source <;> rfl

/-- A build fails by its fault, if there is one, and leaves the log of this. -/
theorem build_eq (program : Host.Program) (device : Host.Device) :
    match buildFault? device program.source with
    | some (status, log) =>
      program.build device = (.error status, program.record device log none)
    | none => ∃ declared, Source.scan program.source = .ok declared ∧
      program.build device = (.ok declared, program.record device "" (some declared)) := by
  simp only [buildFault?, Host.Program.build]
  cases device.hasCompiler with
  | false => rfl
  | true => cases Source.scan program.source <;> simp

theorem createProgram_decided (context : Host.Context) (source : String) :
    Ensures (B := Host.backend Id κ) (ask (.createProgram context source) : Run _ κ' _)
      (Opened device queue)
      (Decided (if Text.isBlankText source then some .invalidValue else none)
        fun (program : Host.ProgramId) state =>
          Opened device queue state ∧ state.programs[program]? = some { source := source }) := by
  refine ask_host fun state h => ?_
  have hopened := h.answer (.createProgram context source) rfl
  simp only [Host.answer, Host.State.createProgram] at *
  split
  · rfl
  · rename_i hblank
    rw [if_neg hblank] at hopened
    exact ⟨state.programs.size, rfl, hopened, Array.getElem?_push_size⟩

theorem buildProgram_ensures (queue : Host.QueueId) (program : Host.ProgramId) (source : String) :
    Ensures (B := Host.backend Id κ) (ask (.buildProgram program device) : Run _ κ' _)
      (fun state => Opened device queue state ∧
        state.programs[program]? = some { source := source })
      fun answer state =>
        match buildFault? device source with
        | none => answer = .ok () ∧ Opened device queue state ∧ Compiled source program state
        | some (status, log) =>
          answer = .error status ∧ state.buildLog program device = .ok log := by
  refine ask_host fun state ⟨h, hprogram⟩ => ?_
  have hopened := h.answer (.buildProgram program device) rfl
  have hset (new : Host.Program) :
      (state.programs.setIfInBounds program new)[program]? = some new :=
    Array.getElem?_setIfInBounds_self_of_lt (Array.getElem?_eq_some_iff.1 hprogram).1
  have hbuild := build_eq { source } device
  cases hfault : buildFault? device source with
  | some fault =>
    simp only [hfault] at hbuild
    simp only [Host.answer, Host.State.buildProgram, hprogram, hbuild, pure, Host.reply,
      Host.State.takeNotices]
    exact ⟨trivial, by simp [Host.State.buildLog, hset, Host.Program.log, Host.Program.record]⟩
  | none =>
    simp only [hfault] at hbuild
    obtain ⟨declared, hscan, hbuild⟩ := hbuild
    simp only [Host.answer, Host.State.buildProgram, hprogram, hbuild] at hopened ⊢
    exact ⟨rfl, hopened, _, hset _, rfl, hscan⟩

theorem compile_decides {resources : Resources Host.handles} (source : String) :
    Decides (B := Host.backend Id κ) (compile resources device source : Attempt _ κ' _)
      (Opened device queue) ((buildRefusals device source).findSome? id)
      fun (program : Host.ProgramId) state =>
        Opened device queue state ∧ Compiled source program state := by
  rw [findSome?_buildRefusals]
  refine Decides.bind (.orFail (createProgram_decided (κ := κ) resources.context source))
    fun program => ?_
  have hbuild : Ensures (B := Host.backend Id κ) (ask (.buildProgram program device) : Run _ κ' _)
      _ _ := buildProgram_ensures queue program source
  cases hfault : buildFault? device source with
  | none =>
    simp only [hfault] at hbuild
    refine Decides.none_bind (.always hbuild) fun built => ?_
    refine Decides.given fun hbuilt => ?_
    obtain rfl : built = .ok () := hbuilt
    exact .bind_none (.always .note) fun _ => .pure fun _ h => h
  | some fault =>
    simp only [hfault] at hbuild
    refine Decides.none_bind (.always hbuild) fun built => ?_
    refine Decides.given fun hbuilt => ?_
    obtain rfl : built = .error fault.1 := hbuilt
    have hlog : Ensures (B := Host.backend Id κ) (ask (.buildLog program device) : Run _ κ' _)
        (fun state => state.buildLog program device = .ok fault.2)
        fun answer _ => answer = .ok fault.2 ∧ True :=
      ask_host fun state h => ⟨h, trivial⟩
    refine Decides.none_bind (.always hlog) fun log => ?_
    refine Decides.given fun hlog => ?_
    obtain rfl : log = .ok fault.2 := hlog
    exact .none_bind (.always .note) fun _ => .throw

/-- Why a text that is accepted has no kernel to run of some name. -/
def entryFault? (source name : String) : Option Status :=
  match declaration? source name with
  | none => some .invalidKernelName
  | some decl =>
    if name ≠ "vecadd" then some .invalidKernelName
    else if decl.params ≠ 4 then some .invalidKernelDefinition
    else none

theorem findSome?_entryRefusals (source name : String) :
    (entryRefusals source name).findSome? id =
      (entryFault? source name).map (.entryPoint name) := by
  rw [entryRefusals, findSome?_id_cons, findSome?_id_cons, List.findSome?_nil, entryFault?]
  cases declaration? source name with
  | none => rfl
  | some decl => by_cases hname : name = "vecadd" <;> by_cases hparams : decl.params = 4 <;>
      simp [hname, hparams]

theorem checkKernel_eq {source : String} {program : Host.Program} (hbuilt : program.built)
    (hscan : Source.scan source = .ok program.declared) (name : String) :
    program.checkKernel name vectorAddParams =
      match entryFault? source name with
      | some status => .error status
      | none => .ok () := by
  have hdecl : declaration? source name = program.declared.find? fun decl => decl.name = name := by
    rw [declaration?, hscan]
  rw [Host.Program.checkKernel, hbuilt, entryFault?, hdecl]
  cases program.declared.find? fun decl => decl.name = name with
  | none => rfl
  | some decl =>
    by_cases hname : name = "vecadd" <;> by_cases hparams : decl.params = 4 <;>
      simp [hname, hparams, vectorAddName, vectorAddParams]

theorem createKernel_decided (program : Host.ProgramId) (source name : String) :
    Ensures (B := Host.backend Id κ)
      (ask (.createKernel program queue name vectorAddParams) : Run _ κ' _)
      (fun state => Opened device queue state ∧ Compiled source program state)
      (Decided (entryFault? source name) fun (kernel : Host.KernelId) state =>
        Opened device queue state ∧ kernel < state.kernels.size) := by
  refine ask_host fun state ⟨h, found, hfound, hbuilt, hscan⟩ => ?_
  have hopened := h.answer (.createKernel program queue name vectorAddParams) rfl
  simp only [Host.answer, Host.State.createKernel, hfound, checkKernel_eq hbuilt hscan] at *
  cases hfault : entryFault? source name with
  | some status => rfl
  | none =>
    rw [hfault] at hopened
    exact ⟨state.kernels.size, rfl, hopened, by simp [Host.reply, pure, Host.State.takeNotices]⟩

theorem build_decides {resources : Resources Host.handles} (source name : String) :
    Decides (B := Host.backend Id κ) (build resources device source name : Attempt _ κ' _)
      (Opened device resources.queue)
      (((buildRefusals device source).findSome? id).or ((entryRefusals source name).findSome? id))
      fun (kernel : Host.KernelId) state =>
        Opened device resources.queue state ∧ kernel < state.kernels.size := by
  rw [findSome?_entryRefusals]
  exact (compile_decides source).bind fun program =>
    .orFail (createKernel_decided program source name)

/-! ### Buffers -/

/-- Buffers of one size have been made beside a queue and a kernel. -/
structure Stocked (device : Host.Device) (queue : Host.QueueId) (kernel : Host.KernelId)
    (size : Nat) (buffers : List (Host.BufferId × Access)) (state : Host.State κ) : Prop where
  opened : Opened device queue state
  kernel_lt : kernel < state.kernels.size
  made : Made buffers size state

/-- Bytes that can be counted in a word are not wrapped around. -/
theorem toNat_byteCount {size : UInt64} (hcount : 4 * size.toNat < UInt64.size) :
    (byteCount size).toNat = 4 * size.toNat := by
  rw [byteCount, UInt64.toNat_mul]
  exact Nat.mod_eq_of_lt hcount

theorem allows_eq (device : Host.Device) (size : UInt64) :
    Host.State.allows device size = !oversized device size := by
  rw [Host.State.allows, oversized, Bool.not_or]
  rcases Nat.lt_or_ge (4 * size.toNat) UInt64.size with hcount | hcount
  · have hallowed (limit : UInt64) :
        decide (byteCount size ≤ limit) = !decide (limit.toNat < 4 * size.toNat) := by
      rw [← decide_not, decide_eq_decide, UInt64.le_iff_toNat_le, toNat_byteCount hcount,
        Nat.not_lt]
    rw [decide_eq_true hcount, decide_eq_false (Nat.not_le.2 hcount)]
    cases device.maxAllocBytes with
    | none => rfl
    | some limit => exact congrArg (true && ·) (hallowed limit)
  · rw [decide_eq_false (Nat.not_lt.2 hcount), decide_eq_true hcount]
    rfl

theorem createBuffer_decided {kernel : Host.KernelId} {known : List (Host.BufferId × Access)}
    (access : Access) (size : UInt64) :
    Ensures (B := Host.backend Id κ)
      (ask (.createBuffer (Host.Context.mk device) queue access size) : Run _ κ' _)
      (Stocked device queue kernel size.toNat known)
      (Decided (if oversized device size then some .invalidBufferSize else none)
        fun (buffer : Host.BufferId) state =>
          Stocked device queue kernel size.toNat (known ++ [(buffer, access)]) state) := by
  refine ask_host fun state h => ?_
  have hopened := h.opened.answer (.createBuffer ⟨device⟩ queue access size) rfl
  rcases hcreate : state.createBuffer ⟨device⟩ access size with ⟨answer, after⟩
  simp only [Host.answer, hcreate] at hopened ⊢
  cases hsize : oversized device size with
  | true =>
    rw [Host.State.createBuffer, allows_eq, hsize] at hcreate
    obtain ⟨rfl, -⟩ := Prod.mk.inj hcreate
    rfl
  | false =>
    have hcreated := hcreate
    rw [Host.State.createBuffer, allows_eq, hsize] at hcreated
    obtain ⟨rfl, rfl⟩ := Prod.mk.inj hcreated
    obtain ⟨hnodup, hshape⟩ := h.made.createBuffer hcreate
    exact ⟨_, rfl, hopened, h.kernel_lt, hnodup, hshape⟩

/-- The buffers of a run have been made, all of the size asked for. -/
structure Sized (buffers : Buffers Host.handles) (state : Host.State κ) : Prop where
  shape_a : state.store.shape buffers.a = some (.input, buffers.size.toNat)
  shape_b : state.store.shape buffers.b = some (.input, buffers.size.toNat)
  shape_c : state.store.shape buffers.c = some (.output, buffers.size.toNat)

/-- A run that has been set up for so many elements. -/
structure Equipped (device : Host.Device) (queue : Host.QueueId) (kernel : Host.KernelId)
    (buffers : Buffers Host.handles) (size : UInt64) (state : Host.State κ) : Prop where
  opened : Opened device queue state
  kernel_lt : kernel < state.kernels.size
  a_ne_b : buffers.a ≠ buffers.b
  size_eq : buffers.size = size
  sized : Sized buffers state

theorem Stocked.equipped {kernel : Host.KernelId} {a b c : Host.BufferId} {size : UInt64}
    (h : Stocked device queue kernel size.toNat [(a, .input), (b, .input), (c, .output)] state) :
    Equipped device queue kernel ⟨a, b, c, size⟩ size state := by
  exact ⟨h.opened, h.kernel_lt, h.made.a_ne_b, rfl, h.made.shape (a, .input) (by simp),
    h.made.shape (b, .input) (by simp), h.made.shape (c, .output) (by simp)⟩

theorem allocate_decides {resources : Resources Host.handles}
    (hcontext : resources.context = Host.Context.mk device) (kernel : Host.KernelId)
    (size : UInt64) :
    Decides (B := Host.backend Id κ) (allocate resources size : Attempt _ κ' _)
      (fun state => Opened device resources.queue state ∧ kernel < state.kernels.size)
      (if oversized device size then some (.allocation .a .invalidBufferSize) else none)
      fun buffers state => Equipped device resources.queue kernel buffers size state := by
  have hbuffer (known : List (Host.BufferId × Access)) (role : Role) :
      Decides (B := Host.backend Id κ)
        (orFail (ask (.createBuffer resources.context resources.queue role.access size))
          (.allocation role) : Attempt _ κ' _)
        (Stocked device resources.queue kernel size.toNat known)
        (if oversized device size then some (.allocation role .invalidBufferSize) else none)
        fun (buffer : Host.BufferId) state => Stocked device resources.queue kernel size.toNat
          (known ++ [(buffer, role.access)]) state := by
    rw [hcontext, ← map_ite_some (.allocation role)]
    exact .orFail (createBuffer_decided role.access size)
  -- what is allowed for A is allowed for B and C
  have hfaults :
      (if oversized device size then some (.allocation .a .invalidBufferSize) else none) =
      (if oversized device size then some (Failure.allocation .a .invalidBufferSize) else none).or
        ((if oversized device size then some (.allocation .b .invalidBufferSize) else none).or
          (if oversized device size then some (.allocation .c .invalidBufferSize) else none)) := by
    cases oversized device size <;> rfl
  rw [hfaults]
  refine Decides.bind ((hbuffer [] .a).mono (fun _ h => ?_) fun _ _ h => h) fun a => ?_
  · exact ⟨h.1, h.2, .nil _⟩
  refine Decides.bind (hbuffer [(a, .input)] .b) fun b => ?_
  refine Decides.bind_none (hbuffer [(a, .input), (b, .input)] .c) fun c => ?_
  exact .bind_none (.always .note) fun _ => .pure fun _ h => h.equipped

/-- A run is set up, unless there is a reason against it. -/
theorem prepare_decides (device : Host.Device) (source entryPoint : String) (size : UInt64) :
    Decides (B := Host.backend Id κ) (prepare device source entryPoint size : Attempt _ κ' _)
      (Startable device)
      ((setupRefusals device source entryPoint size).findSome? id)
      fun (resources, kernel, buffers) state =>
        Equipped device resources.queue kernel buffers size state := by
  have hrefusals : (setupRefusals device source entryPoint size).findSome? id =
      ((device.contextFault.map .contextCreation).or (device.queueFault.map .queueCreation)).or
        ((((buildRefusals device source).findSome? id).or
          ((entryRefusals source entryPoint).findSome? id)).or
        (if oversized device size then some (.allocation .a .invalidBufferSize) else none)) := by
    simp only [setupRefusals, List.findSome?_append, findSome?_id_cons, List.findSome?_nil,
      Option.or_none, Option.or_assoc]
  rw [hrefusals]
  refine Decides.bind (acquire_decides (κ := κ) device) fun resources => ?_
  refine Decides.given fun hcontext => ?_
  refine Decides.bind (build_decides source entryPoint) fun kernel => ?_
  exact .bind_none (allocate_decides hcontext kernel size) fun _ => .pure fun _ h => h

end Run

end Offload
