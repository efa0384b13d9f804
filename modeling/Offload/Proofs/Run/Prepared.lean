import Offload.Proofs.Host.Blocked
import Offload.Proofs.Run.Ensures
import Offload.Proofs.Scripted
import Offload.Run.Device

/-!
# Prepared runs

`Run.prepare` sets up a run: the context with its queue, the program with its kernel and the three
buffers. On a scripted backend the worlds that a run can come to from there, by executing any
vectors any number of times, are those that it has `Run.Reached`, whatever calls the script lets
fail meanwhile. In all of them the host backend is in a reachable state, the inputs are distinct,
and C has at most as many elements as were asked for (`Run.Allocated`).
-/

namespace Offload.Run

section

variable {m : Type → Type} [Monad m] {B : Backend m} {κ : Type}

/-- Sets up a run: its context and queue, its kernel and its buffers. -/
def prepare (device : B.handles.Device) (source entryPoint : String) (size : UInt64) :
    Attempt B κ (Resources B.handles × B.handles.Kernel × Buffers B.handles) := do
  let resources ← acquire device
  let kernel ← build resources device source entryPoint
  let buffers ← allocate resources size
  return (resources, kernel, buffers)

/-- The benchmark of a device prepares a run and executes it once. -/
theorem onDevice_eq [LawfulMonad m] [Clock m κ] (device : B.handles.Device) (config : Config) :
    onDevice (B := B) (κ := κ) device config = (do
      let (resources, kernel, buffers) ←
        prepare device config.kernelSource config.entryPoint config.elements
      let vectors := Vectors.filled config.elements.toNat config.fillA config.fillB
      let (outcome, vectors) ← always (execute resources kernel buffers vectors)
      match outcome with
      | .error failure => throw failure
      | .ok execution => collect execution vectors config.sample) := by
  rw [onDevice, prepare, bind_assoc]
  refine bind_congr fun resources => ?_
  rw [bind_assoc]
  refine bind_congr fun kernel => ?_
  rw [bind_assoc]
  refine bind_congr fun buffers => ?_
  symm
  exact pure_bind _ _

end

section

variable {B : Backend Id} {κ : Type} {I : B.State → Prop}

theorem bindArguments_keeps (kernel : B.handles.Kernel)
    (h : ∀ index arg, Ensures (ask (.setKernelArg kernel index arg) : Run B κ _) I fun _ => I)
    (index : Nat) (args : List (Argument B.handles.Buffer)) :
    Ensures (bindArguments kernel index args : Run B κ _) I fun _ => I := by
  induction args generalizing index with
  | nil => exact .pure fun _ hI => hI
  | cons arg args ih =>
    refine (h index arg).bind fun answer => ?_
    cases answer with
    | error status => exact .pure fun _ hI => hI
    | ok _ => exact ih (index + 1)

/-- Arguments of which each can be bound once those before it are, are all bound. -/
theorem bindArguments_ok {kernel : B.handles.Kernel} (bound : Nat → B.State → Prop) {index : Nat}
    {args : List (Argument B.handles.Buffer)}
    (h : ∀ i arg, args[i]? = some arg →
      Ensures (ask (.setKernelArg kernel (index + i) arg) : Run B κ _) (bound (index + i))
        fun answer state => answer = .ok () ∧ bound (index + i + 1) state) :
    Ensures (bindArguments kernel index args : Run B κ _) (bound index) fun answer state =>
      answer = .ok () ∧ bound (index + args.length) state := by
  induction args generalizing index with
  | nil => exact .pure fun _ hbound => ⟨rfl, hbound⟩
  | cons arg args ih =>
    refine (h 0 arg rfl).bind fun answer => .given fun hanswer => ?_
    obtain rfl : answer = .ok () := hanswer
    have hrest : Ensures (bindArguments kernel (index + 1) args : Run B κ _) (bound (index + 1))
        fun answer state => answer = .ok () ∧ bound (index + 1 + args.length) state :=
      ih fun i arg harg => Nat.add_right_comm index i 1 ▸ h (i + 1) arg harg
    exact hrest.mono (fun _ h => h) fun _ _ ⟨hanswer, hbound⟩ =>
      ⟨hanswer, Nat.add_right_comm index 1 args.length ▸ hbound⟩

theorem submit_keeps
    (h : ∀ request, (∀ events, request ≠ .waitEvents events) →
      Ensures (ask request : Run B κ _) I fun _ => I)
    (queue : B.handles.Queue) (kernel : B.handles.Kernel) (buffers : Buffers B.handles)
    (vectors : Vectors) :
    Ensures (submit queue kernel buffers vectors : Run B κ _) I fun _ => I := by
  refine .submit (fun _ => I) ((h _ (by nofun)).mono (fun _ hI => hI) fun _ _ hI => ?_)
    (fun writeA => (h _ (by nofun)).mono (fun _ hI => hI) fun _ _ hI => ?_)
    (fun writeA writeB => (h _ (by nofun)).mono (fun _ hI => hI) fun _ _ hI => ?_)
    fun writeA writeB added => (h _ (by nofun)).mono (fun _ hI => hI) fun _ _ hI => ?_
  all_goals exact ⟨fun _ _ => hI, fun _ _ => hI⟩

theorem settle_keeps (h : ∀ request state, I state → I (B.answer request state).state)
    (queue : B.handles.Queue) (submitted : List B.handles.Event) (vectors : Vectors) :
    Ensures (settle queue submitted vectors : Run B κ _) I fun _ => I := by
  have hask (request : Request B.handles) : Ensures (ask request : Run B κ _) I fun _ => I :=
    .ask (h request)
  refine (hask _).bind fun answer => ?_
  cases answer with
  | ok _ => exact .pure fun _ hI => hI
  | error status =>
    refine (hask _).bind fun answer => ?_
    cases answer with
    | ok _ => exact .pure fun _ hI => hI
    | error stuck => exact .bind .note fun _ => .pure fun _ hI => hI

/-- What every request keeps, an execution keeps. -/
theorem execute_keeps [Clock Id κ] (h : ∀ request state, I state → I (B.answer request state).state)
    (resources : Resources B.handles) (kernel : B.handles.Kernel) (buffers : Buffers B.handles)
    (vectors : Vectors) :
    Ensures (execute resources kernel buffers vectors : Run B κ _) I fun _ => I :=
  .execute (fun _ _ hI _ => hI) (fun _ => bindArguments_keeps _ (fun _ _ => .ask (h _)) _ _)
    (fun _ _ hI => hI) (fun _ => submit_keeps (fun _ _ => .ask (h _)) _ _ _ _)
    (fun _ => settle_keeps h _ _ _) (fun _ _ _ _ _ hI => hI) fun _ _ _ _ _ hI _ => hI

variable {α β : Type}

theorem andThen_keeps {attempt : Attempt B κ α} {next : α → Attempt B κ β}
    (h : Ensures (B := B) (κ := κ) attempt.run I fun _ => I)
    (hnext : ∀ a, Ensures (B := B) (κ := κ) (next a).run I fun _ => I) :
    Ensures (B := B) (κ := κ) (attempt >>= next).run I fun _ => I := by
  change Ensures (attempt.run >>= ExceptT.bindCont fun a => (next a).run) I _
  refine Ensures.bind h fun result => ?_
  cases result with
  | error failure => exact .pure fun _ hI => hI
  | ok a => exact hnext a

theorem orFail_keeps {run : Run B κ (Except Status α)} (h : Ensures run I fun _ => I)
    (failure : Status → Failure) :
    Ensures (B := B) (κ := κ) (orFail run failure).run I fun _ => I := by
  refine Ensures.bind h fun answer => ?_
  cases answer <;> exact .pure fun _ hI => hI

theorem always_keeps {run : Run B κ α} (h : Ensures run I fun _ => I) :
    Ensures (B := B) (κ := κ) (always run).run I fun _ => I :=
  Ensures.bind h fun _ => .pure fun _ hI => hI

section

variable (h : ∀ request state, I state → I (B.answer request state).state)

include h

theorem compile_keeps (resources : Resources B.handles) (device : B.handles.Device)
    (source : String) :
    Ensures (B := B) (κ := κ) (compile resources device source).run I fun _ => I := by
  refine andThen_keeps (orFail_keeps (.ask (h _)) _) fun program =>
    andThen_keeps (always_keeps (.ask (h _))) fun answer => ?_
  cases answer with
  | ok _ => exact andThen_keeps (always_keeps .note) fun _ => .pure fun _ hI => hI
  | error status =>
    refine andThen_keeps (always_keeps (.ask (h _))) fun log => ?_
    cases log <;> exact andThen_keeps (always_keeps .note) fun _ => .pure fun _ hI => hI

theorem stageTime_keeps (event : B.handles.Event) (stage : Stage) :
    Ensures (B := B) (κ := κ) (stageTime event stage).run I fun _ => I := by
  refine andThen_keeps (orFail_keeps (.ask (h _)) _) fun stamps => ?_
  cases stamps.elapsed? <;> exact .pure fun _ hI => hI

/-- What every request keeps, a run on a device keeps. -/
theorem onDevice_keeps [Clock Id κ] (device : B.handles.Device) (config : Config) :
    Ensures (B := B) (κ := κ) (onDevice device config).run I fun _ => I := by
  have hacquire : Ensures (B := B) (κ := κ) (acquire device).run I fun _ => I :=
    andThen_keeps (orFail_keeps (.ask (h _)) _) fun _ =>
      andThen_keeps (orFail_keeps (.ask (h _)) _) fun _ =>
      andThen_keeps (always_keeps .note) fun _ => .pure fun _ hI => hI
  have hallocate (resources : Resources B.handles) :
      Ensures (B := B) (κ := κ) (allocate resources config.elements).run I fun _ => I :=
    andThen_keeps (orFail_keeps (.ask (h _)) _) fun _ =>
      andThen_keeps (orFail_keeps (.ask (h _)) _) fun _ =>
      andThen_keeps (orFail_keeps (.ask (h _)) _) fun _ =>
      andThen_keeps (always_keeps .note) fun _ => .pure fun _ hI => hI
  refine andThen_keeps hacquire fun resources =>
    andThen_keeps (andThen_keeps (compile_keeps h resources device config.kernelSource)
      fun program => orFail_keeps (.ask (h _)) _) fun kernel =>
    andThen_keeps (hallocate resources) fun buffers =>
    andThen_keeps (always_keeps (execute_keeps h resources kernel buffers _))
      fun ⟨outcome, vectors⟩ => ?_
  cases outcome with
  | error failure => exact .pure fun _ hI => hI
  | ok execution =>
    exact andThen_keeps (stageTime_keeps h _ _) fun _ => andThen_keeps (stageTime_keeps h _ _)
      fun _ => andThen_keeps (stageTime_keeps h _ _) fun _ => andThen_keeps
      (stageTime_keeps h _ _) fun _ => .pure fun _ hI => hI

end

end

/-! ### Scripted backends -/

section

variable {κ : Type} [Clock Id κ] {script : Script} {queue : Host.QueueId}

/-- A queue as it is when it has been made. -/
structure Fresh (queue : Host.QueueId) (host : Host.State κ) : Prop where
  reachable : host.Reachable
  lt_size : queue < host.queues.size
  idle : host.pending queue = []

theorem Fresh.of_queues {host host' : Host.State κ} (h : Fresh queue host)
    (hreachable : host'.Reachable) (hqueues : host'.queues = host.queues) : Fresh queue host' := by
  refine ⟨hreachable, hqueues ▸ h.lt_size, ?_⟩
  rw [Host.State.pending_congr hqueues]
  exact h.idle

/-- The inputs of a run are distinct, and C has no more elements than were asked for. -/
structure Allocated (buffers : Buffers Script.handles) (host : Host.State κ) : Prop where
  a_ne_b : buffers.a ≠ buffers.b
  size_c : ∃ access size, host.store.shape buffers.c = some (access, size) ∧
    size ≤ buffers.size.toNat

/-- A run between two executions: its queue is idle, its kernel and its buffers have been made, and
    each buffer really has so many elements. -/
structure Poised (queue : Host.QueueId) (kernel : Host.KernelId) (buffers : Buffers Script.handles)
    (capacity : Nat) (host : Host.State κ) : Prop where
  fresh : Fresh queue host
  kernel_lt : kernel < host.kernels.size
  a_ne_b : buffers.a ≠ buffers.b
  shape_a : host.store.shape buffers.a = some (.input, capacity)
  shape_b : host.store.shape buffers.b = some (.input, capacity)
  shape_c : host.store.shape buffers.c = some (.output, capacity)

theorem Poised.allocated {kernel : Host.KernelId} {buffers : Buffers Script.handles}
    {capacity : Nat}
    {host : Host.State κ} (h : Poised queue kernel buffers capacity host)
    (hle : capacity ≤ buffers.size.toNat) : Allocated buffers host :=
  ⟨h.a_ne_b, _, _, h.shape_c, hle⟩

variable {κ' : Type}

/-- What a request keeps in the host backend, a call keeps under a script. -/
theorem ask_keeps {I : Host.State κ → Prop} (hnotices : ∀ host, I host → I host.takeNotices.2)
    {request : Request Script.handles}
    (hrequest : ∀ host, I host → I (Host.answer (m := Id) (script.onHost request) host).state) :
    Ensures (B := script.backend Id κ) (ask request : Run _ κ' _) (fun state => I state.host)
      fun _ state => I state.host := by
  refine .ask fun state hI => ?_
  rcases script.host_answer request state with h | h
  · exact h ▸ hrequest _ hI
  · exact h ▸ hnotices _ hI

theorem ask_fresh {request : Request Script.handles}
    (h : Host.State.quiet (script.onHost request)) :
    Ensures (B := script.backend Id κ) (ask request : Run _ κ' _)
      (fun state => Fresh queue state.host) fun _ state => Fresh queue state.host := by
  refine ask_keeps ?_ ?_
  · intro _ hfresh
    exact hfresh.of_queues hfresh.reachable.takeNotices rfl
  · intro host hfresh
    have huntouched := Host.State.untouched_answer h host
    exact hfresh.of_queues (hfresh.reachable.answer _) huntouched.queues

theorem createQueue_fresh {context : Host.Context} {device : Host.Device} {profiling : Bool}
    {state : Script.State κ} {reply : Reply _ (Script.State κ)} (h : state.host.Reachable)
    (hreply : script.answer (m := Id) (.createQueue context device profiling) state = reply)
    (hok : reply.answer = .ok queue) : Fresh queue reply.state.host := by
  have hreplies := Script.createQueue_replies hreply
  rw [hok] at hreplies
  obtain ⟨host', hcreate, hafter⟩ := hreplies.eq_of_ok
  have hreachable := h.answer (.createQueue context device profiling)
  simp only [Host.answer, hcreate] at hreachable
  rw [hafter]
  -- a queue is made only if its device is that of the context and has no fault for queues
  rw [Host.State.createQueue] at hcreate
  split at hcreate
  · cases hcreate
  · split at hcreate
    · cases hcreate
    · obtain ⟨⟨rfl⟩, rfl⟩ := Prod.mk.inj hcreate
      exact ⟨hreachable, by simp [Host.State.takeNotices],
        by simp [Host.State.takeNotices, Host.State.pending]⟩

theorem acquire_fresh (device : Host.Device) :
    Yields (B := script.backend Id κ) (acquire device : Attempt _ κ' _)
      (fun state => state.host.Reachable) fun resources state =>
        Fresh resources.queue state.host := by
  have hcontext : Ensures (B := script.backend Id κ)
      (ask (.createContext device) : Run _ κ' _) (fun state => state.host.Reachable)
      fun _ state => state.host.Reachable :=
    ask_keeps (fun _ h => h.takeNotices) fun _ h => h.answer _
  refine Yields.bind (.orFail (hcontext.mono (fun _ h => h) fun _ _ h _ _ => h)) fun context => ?_
  have hqueue : Ensures (B := script.backend Id κ)
      (ask (.createQueue context device true) : Run _ κ' _) (fun state => state.host.Reachable)
      fun answer state => ∀ queue, answer = .ok queue → Fresh queue state.host :=
    .ask fun state h queue hok => createQueue_fresh h rfl hok
  refine Yields.bind (.orFail hqueue) fun queue => ?_
  exact .bind (.always .note) fun _ => .pure fun _ h => h

theorem createKernel_lt {program : Host.ProgramId} {target : Host.QueueId} {name : String}
    {params : List ParamKind} {kernel : Host.KernelId} {state : Script.State κ}
    {reply : Reply _ (Script.State κ)}
    (hreply : script.answer (m := Id) (.createKernel program target name params) state = reply)
    (hok : reply.answer = .ok kernel) : kernel < reply.state.host.kernels.size := by
  have hreplies := Script.createKernel_replies hreply
  rw [hok] at hreplies
  obtain ⟨host', hcreate, hafter⟩ := hreplies.eq_of_ok
  rw [hafter]
  rw [Host.State.createKernel] at hcreate
  split at hcreate
  · cases hcreate
  · split at hcreate
    · cases hcreate
    · obtain ⟨⟨rfl⟩, rfl⟩ := Prod.mk.inj hcreate
      simp [Host.State.takeNotices]

theorem build_fresh (resources : Resources Script.handles) (device : Host.Device)
    (source entryPoint : String) :
    Yields (B := script.backend Id κ) (build resources device source entryPoint : Attempt _ κ' _)
      (fun state => Fresh queue state.host) fun (kernel : Host.KernelId) state =>
        Fresh queue state.host ∧ kernel < state.host.kernels.size := by
  have hask {request : Request Script.handles} (h : Host.State.quiet (script.onHost request)) :
      Ensures (B := script.backend Id κ) (ask request : Run _ κ' _)
        (fun state => Fresh queue state.host) fun _ state => Fresh queue state.host :=
    ask_fresh h
  have hcompile : Yields (B := script.backend Id κ)
      (compile resources device source : Attempt _ κ' _)
      (fun state => Fresh queue state.host) fun _ state => Fresh queue state.host := by
    refine Yields.bind (.orFail ((hask rfl).mono (fun _ h => h) fun _ _ h _ _ => h))
      fun program => ?_
    refine Yields.bind (.always (hask rfl)) fun built => ?_
    cases built with
    | ok _ => exact .bind (.always .note) fun _ => .pure fun _ h => h
    | error status =>
      refine Yields.bind (.always (hask rfl)) fun log => ?_
      exact .bind (.always .note) fun _ => .throw
  have hkernel (program : Host.ProgramId) : Ensures (B := script.backend Id κ)
      (ask (.createKernel program resources.queue entryPoint vectorAddParams) : Run _ κ' _)
      (fun state => Fresh queue state.host)
      fun answer state => ∀ kernel : Host.KernelId, answer = .ok kernel →
        Fresh queue state.host ∧ kernel < state.host.kernels.size := by
    have hlt : Ensures (B := script.backend Id κ)
        (ask (.createKernel program resources.queue entryPoint vectorAddParams) : Run _ κ' _)
        (fun state => Fresh queue state.host)
        fun answer state => ∀ kernel : Host.KernelId, answer = .ok kernel →
          kernel < state.host.kernels.size :=
      .ask fun _ _ _ hok => createKernel_lt rfl hok
    exact ((hask rfl).and hlt).mono (fun _ h => h) fun _ _ ⟨hfresh, hlt⟩ kernel hok =>
      ⟨hfresh, hlt kernel hok⟩
  exact Yields.bind hcompile fun program => .orFail (hkernel program)

/-- A queue that has been finished with success has no pending command. -/
theorem finish_idle {state : Script.State κ} {reply : Reply _ (Script.State κ)}
    (h : state.host.WellFormed)
    (hreply : script.answer (m := Id) (.finish queue) state = reply) (hok : reply.answer = .ok ()) :
    reply.state.host.pending queue = [] := by
  classical
  have hreplies := Script.finish_replies hreply
  rw [hok] at hreplies
  obtain ⟨host', hfinish, hafter⟩ := hreplies.eq_of_ok
  rw [hafter]
  rcases Nat.lt_or_ge queue state.host.queues.size with hqueue | hqueue
  · obtain ⟨log, -, -, hpending, hstuck, -⟩ := h.drain hqueue hfinish
    -- a blocked command would have been reported
    have hnone : ¬∃ c, Host.State.Blocked state.host queue c := by
      intro hblocked
      exact nomatch hstuck.2 hblocked
    refine hpending.trans (List.filter_eq_nil_iff.2 fun c _ hc => hnone ⟨c, ?_⟩)
    simpa using hc
  · rw [Host.State.finish, Host.State.drive_of_size_le hqueue] at hfinish
    exact nomatch hfinish

/-! ### Buffers -/

theorem toNat_capped_le (script : Script) (size : UInt64) :
    (script.capped size).toNat ≤ size.toNat := by
  rw [Script.capped]
  split
  · exact UInt64.le_iff_toNat_le.1 Std.min_le_left
  · exact Nat.le_refl _

/-- Buffers that have been made, with their access, all of one size. -/
structure Made (known : List (Host.BufferId × Access)) (size : Nat) (host : Host.State κ) :
    Prop where
  nodup : (known.map Prod.fst).Nodup
  shape : ∀ buffer ∈ known, host.store.shape buffer.1 = some (buffer.2, size)

omit [Clock Id κ] in
theorem Made.nil {size : Nat} (host : Host.State κ) : Made [] size host :=
  ⟨List.nodup_nil, nofun⟩

omit [Clock Id κ] in
theorem Made.a_ne_b {a b c : Host.BufferId} {size : Nat} {host : Host.State κ}
    (h : Made [(a, .input), (b, .input), (c, .output)] size host) : a ≠ b := by
  have hnodup := h.nodup
  simp only [List.map_cons, List.nodup_cons, List.mem_cons, not_or] at hnodup
  exact hnodup.1.1

omit [Clock Id κ] in
/-- A new buffer has a number that has not been given out before. -/
theorem Made.createBuffer {known : List (Host.BufferId × Access)} {host host' : Host.State κ}
    {context : Host.Context} {access : Access} {size : UInt64} {buffer : Host.BufferId}
    (h : Made known size.toNat host)
    (hcreate : host.createBuffer context access size = (.ok buffer, host')) :
    Made (known ++ [(buffer, access)]) size.toNat host' := by
  have hshape (old : Host.BufferId × Access) (hold : old ∈ known) :=
    Host.State.shape_createBuffer context access size (h.shape old hold)
  simp only [hcreate] at hshape
  rw [Host.State.createBuffer] at hcreate
  split at hcreate
  · obtain ⟨⟨rfl⟩, rfl⟩ := Prod.mk.inj hcreate
    refine ⟨?_, fun made hmade => ?_⟩
    · rw [List.map_append, List.nodup_append]
      refine ⟨h.nodup, List.pairwise_singleton _ _, fun old hold made hmade heq => ?_⟩
      obtain ⟨known', hknown', rfl⟩ := List.mem_map.1 hold
      have hknown := h.shape known' hknown'
      simp [Host.Store.shape, heq, List.mem_singleton.1 hmade] at hknown
    · rcases List.mem_append.1 hmade with hmade | hmade
      · exact hshape made hmade
      · obtain rfl := List.mem_singleton.1 hmade
        simp [Host.Store.shape]
  · cases hcreate

/-- Buffers of one size have been made beside a fresh queue and a kernel. -/
structure Allocating (queue : Host.QueueId) (kernel : Host.KernelId) (capacity : Nat)
    (known : List (Host.BufferId × Access)) (host : Host.State κ) : Prop where
  fresh : Fresh queue host
  kernel_lt : kernel < host.kernels.size
  made : Made known capacity host

variable {kernel : Host.KernelId} {capacity : Nat}

theorem Allocating.poised {a b c : Host.BufferId} {size : UInt64} {host : Host.State κ}
    (h : Allocating queue kernel capacity [(a, .input), (b, .input), (c, .output)] host) :
    Poised queue kernel ⟨a, b, c, size⟩ capacity host :=
  ⟨h.fresh, h.kernel_lt, h.made.a_ne_b, h.made.shape (a, .input) (by simp),
    h.made.shape (b, .input) (by simp), h.made.shape (c, .output) (by simp)⟩

theorem createBuffer_allocating {known : List (Host.BufferId × Access)} {context : Host.Context}
    {target : Host.QueueId} {access : Access} {size : UInt64} {buffer : Host.BufferId}
    {state : Script.State κ} {reply : Reply _ (Script.State κ)}
    (h : Allocating queue kernel (script.capped size).toNat known state.host)
    (hreply : script.answer (m := Id) (.createBuffer context target access size) state = reply)
    (hok : reply.answer = .ok buffer) :
    Allocating queue kernel (script.capped size).toNat (known ++ [(buffer, access)])
      reply.state.host := by
  have hreplies := Script.createBuffer_replies hreply
  rw [hok] at hreplies
  obtain ⟨host', hcreate, hafter⟩ := hreplies.eq_of_ok
  have hmade := h.made.createBuffer hcreate
  have hreachable := h.fresh.reachable.answer
    (.createBuffer context target access (script.capped size))
  simp only [Host.answer, hcreate] at hreachable
  rw [hafter]
  rw [Host.State.createBuffer] at hcreate
  split at hcreate
  · obtain ⟨⟨rfl⟩, rfl⟩ := Prod.mk.inj hcreate
    exact ⟨h.fresh.of_queues hreachable rfl, h.kernel_lt, hmade.nodup, hmade.shape⟩
  · cases hcreate

theorem allocate_poised (resources : Resources Script.handles) (size : UInt64) :
    Yields (B := script.backend Id κ) (allocate resources size : Attempt _ κ' _)
      (fun state => Fresh queue state.host ∧ kernel < state.host.kernels.size)
      fun buffers state => buffers.size = size ∧
        Poised queue kernel buffers (script.capped size).toNat state.host := by
  have hbuffer (known : List (Host.BufferId × Access)) (role : Role) :
      Yields (B := script.backend Id κ)
        (orFail (ask (.createBuffer resources.context resources.queue role.access size))
          (.allocation role) : Attempt _ κ' _)
        (fun state => Allocating queue kernel (script.capped size).toNat known state.host)
        fun (buffer : Host.BufferId) state => Allocating queue kernel (script.capped size).toNat
          (known ++ [(buffer, role.access)]) state.host :=
    .orFail (.ask fun state h buffer hok => createBuffer_allocating h rfl hok)
  refine Yields.bind ((hbuffer [] .a).mono (fun _ h => ?_) fun _ _ h => h) fun a => ?_
  · exact ⟨h.1, h.2, .nil _⟩
  refine Yields.bind (hbuffer [(a, .input)] .b) fun b => ?_
  refine Yields.bind (hbuffer [(a, .input), (b, .input)] .c) fun c => ?_
  exact .bind (.always .note) fun _ => .pure fun _ h => ⟨rfl, h.poised⟩

/-! ### The worlds of a run -/

/-- The worlds to which a run can come: it has been prepared on a host backend in some state, and
    has then executed some vectors, one after the other. -/
inductive Reached [Clock Id κ'] (script : Script) (resources : Resources Script.handles)
    (kernel : Host.KernelId) (buffers : Buffers Script.handles) :
    World (script.backend Id κ) κ' → Prop
  | prepared {device : Host.Device} {source entryPoint : String} {size : UInt64}
      {world world' : World (script.backend Id κ) κ'} : world.backend.host.Reachable →
      (prepare device source entryPoint size).run world =
        (.ok (resources, kernel, buffers), world') →
      Reached script resources kernel buffers world'
  | executed {world : World (script.backend Id κ) κ'} (vectors : Vectors) :
      Reached script resources kernel buffers world →
      Reached script resources kernel buffers (execute resources kernel buffers vectors world).2

theorem prepare_poised (device : Host.Device) (source entryPoint : String) (size : UInt64) :
    Yields (B := script.backend Id κ) (prepare device source entryPoint size : Attempt _ κ' _)
      (fun state => state.host.Reachable) fun (resources, kernel, buffers) state =>
        buffers.size = size ∧
          Poised resources.queue kernel buffers (script.capped size).toNat state.host :=
  (acquire_fresh device).bind fun resources =>
    (build_fresh resources device source entryPoint).bind fun _ =>
      (allocate_poised resources size).bind fun _ => .pure fun _ h => h

variable [Clock Id κ'] {resources : Resources Script.handles}
  {buffers : Buffers Script.handles} {world : World (script.backend Id κ) κ'}

omit [Clock Id κ'] in
theorem answer_allocated (request : Request Script.handles) {state : Script.State κ}
    (h : state.host.Reachable ∧ Allocated buffers state.host) :
    (script.answer (m := Id) request state).state.host.Reachable ∧
      Allocated buffers (script.answer (m := Id) request state).state.host := by
  obtain ⟨hreachable, hab, access, size, hshape, hsize⟩ := h
  rcases script.host_answer request state with h | h <;> rw [h]
  · exact ⟨hreachable.answer _, hab, access, size,
      hreachable.wellFormed.shape_answer _ hshape, hsize⟩
  · exact ⟨hreachable.takeNotices, hab, access, size, hshape, hsize⟩

/-- In every world of a run the state of the host backend is reachable, and the buffers are as they
    were allocated. -/
theorem Reached.allocated (h : Reached script resources kernel buffers world) :
    world.backend.host.Reachable ∧ Allocated buffers world.backend.host := by
  induction h with
  | prepared hreachable hprepare =>
    rename_i device source entryPoint size world world'
    have hyields := prepare_poised device source entryPoint size world hreachable
    rw [hprepare] at hyields
    obtain ⟨rfl, hpoised⟩ := hyields _ rfl
    exact ⟨hpoised.fresh.reachable, hpoised.allocated (toNat_capped_le _ _)⟩
  | executed vectors hreached ih =>
    rename_i world
    have hkeeps : Ensures (B := script.backend Id κ)
        (execute resources kernel buffers vectors : Run _ κ' _)
        (fun state => state.host.Reachable ∧ Allocated buffers state.host)
        fun _ state => state.host.Reachable ∧ Allocated buffers state.host :=
      execute_keeps (fun request state hI => answer_allocated request hI) _ _ _ _
    exact hkeeps world ih

end

/-! ### A run with leftovers -/

namespace Leftover

/-- A device whose queues are out of order. -/
def device : Host.Device := { name := "", kind := .cpu, order := .outOfOrder }

/-- The first download and the drain after it are refused. -/
def script : Script where
  faults := [⟨.enqueueRead, 0, .outOfResources, false⟩, ⟨.finish, 0, .outOfResources, false⟩]

/-- Nothing has been made yet, and no time passes. -/
def start : World (script.backend Id Readings) Readings where
  backend := { host := .initial (.ofFunction fun _ => 0) }
  clock := .ofFunction fun _ => 0

/-- What is made. -/
def resources : Resources Script.handles := ⟨⟨device⟩, 0⟩

/-- The kernel that is made. -/
def kernel : Host.KernelId := 0

/-- The buffers that are made. -/
def buffers : Buffers Script.handles := ⟨0, 1, 2, 2⟩

/-- Prepares the run. -/
def prepared : Except Failure (Resources Script.handles × Host.KernelId × Buffers Script.handles) ×
    World (script.backend Id Readings) Readings :=
  (prepare device "__kernel void vecadd(a, b, c, n)" "vecadd" 2).run start

/-- Vectors of two elements. -/
def vectors : Vectors := ⟨#[1, 2], #[3, 4], #[0, 0], rfl, rfl⟩

theorem reached : Reached script resources kernel buffers prepared.2 := by
  have hprepared : prepared.1 = .ok (resources, kernel, buffers) := by with_unfolding_all rfl
  exact .prepared .initial (Prod.ext hprepared rfl)

end Leftover

end Offload.Run
