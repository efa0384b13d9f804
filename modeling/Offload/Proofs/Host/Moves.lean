import Offload.Proofs.Host.WellFormed

/-!
# Moves

Whatever is asked of the host backend, only two things ever happen to a command: it is submitted to
a queue, and a queue runs it. The rest of what requests do touches neither queues nor events. A
*move* is one such change (`State.Move`), with the deed that it adds to the record, and every
request is a sequence of moves (`State.Known.answer_moves`). So what each move keeps, every request
keeps.

A command that is submitted fits the buffers that there are (`Operation.Fits`): a transfer is not
longer than its buffer, and the argument vector of a kernel holds what the kernel expects, with
buffers that exist, as only arguments of the right kinds and buffers that exist can be bound
(`State.Known`).
-/

namespace Offload.Host

/-- What happens to a command. -/
inductive Deed where
  /-- The command is submitted to the queue. -/
  | submitted (queue : QueueId) (command : Command)
  /-- The queue runs the command. -/
  | ran (queue : QueueId) (command : Command)

/-- The buffers of an operation exist, what it transfers fits, and what it is given as arguments are
    such. -/
def Operation.Fits (shape : BufferId → Option (Access × Nat)) : Operation → Prop
  | write target data => ∃ access size, shape target = some (access, size) ∧ data.size ≤ size
  | kernel _ entries => ∃ args : Arguments, entries = args.vector ∧
    ∀ buffer ∈ [args.a, args.b, args.c], (shape buffer).isSome
  | read source count => ∃ access size, shape source = some (access, size) ∧ count ≤ size

/-- An operation that fits still does when there are more buffers. -/
theorem Operation.Fits.mono {shape shape' : BufferId → Option (Access × Nat)}
    {operation : Operation} (h : operation.Fits shape)
    (hle : ∀ buffer found, shape buffer = some found → shape' buffer = some found) :
    operation.Fits shape' := by
  cases operation with
  | write | read =>
    obtain ⟨access, size, hshape, hsize⟩ := h
    exact ⟨access, size, hle _ _ hshape, hsize⟩
  | kernel size entries =>
    obtain ⟨args, hentries, hbuffers⟩ := h
    refine ⟨args, hentries, fun buffer hbuffer => ?_⟩
    obtain ⟨found, hfound⟩ := Option.isSome_iff_exists.1 (hbuffers buffer hbuffer)
    exact Option.isSome_iff_exists.2 ⟨found, hle _ _ hfound⟩

theorem Operation.Fits.isSome_of_mem_touches {shape : BufferId → Option (Access × Nat)}
    {operation : Operation} (h : operation.Fits shape) {buffer : BufferId}
    (hbuffer : buffer ∈ operation.touches) : (shape buffer).isSome := by
  cases operation with
  | write | read =>
    obtain rfl := List.mem_singleton.1 hbuffer
    obtain ⟨access, size, hshape, -⟩ := h
    rw [hshape, Option.isSome_some]
  | kernel size entries =>
    obtain ⟨args, rfl, hbuffers⟩ := h
    exact hbuffers buffer (touches_kernel size args ▸ hbuffer)

/-- A command changes no event but its own. -/
theorem Queue.events_execute {κ : Type} [Clock Id κ] (queue : Queue) {command : Command}
    {store after : Store κ} {failure : Option Status}
    (h : queue.execute (m := Id) command store = (failure, after)) {event : EventId}
    (hne : event ≠ command.event) : after.events[event]? = store.events[event]? := by
  have hresolve (settled : Store κ) (status : EventStatus) (fetched : Array Int32) :
      (settled.resolve command.event status fetched).events[event]? = settled.events[event]? := by
    rw [Store.resolve, Array.getElem?_modify, if_neg hne.symm]
  rw [Queue.execute] at h
  split at h
  · obtain rfl := (Prod.mk.inj h).2
    exact hresolve _ _ _
  · rcases hstart : Clock.read (m := Id) store.clock with ⟨start, clock⟩
    have hevents := (Store.perform_eq { store with clock } command.operation).2.2.2
    rcases hperform : Store.perform { store with clock } command.operation with ⟨outcome, done⟩
    rcases hstop : Clock.read (m := Id) done.clock with ⟨stop, clock'⟩
    simp only [hperform] at hevents
    simp only [bind, pure, hstart, hperform, hstop] at h
    cases outcome with
    | ok fetched =>
      obtain rfl := (Prod.mk.inj h).2
      rw [hresolve, ← hevents]
    | error status =>
      obtain rfl := (Prod.mk.inj h).2
      rw [hresolve, ← hevents]
      rfl

namespace State

variable {κ : Type} {state state' state'' : State κ} {queue : QueueId}

/-- What is bound to a kernel is of the right kind, and the buffers among it exist. -/
def Known (state : State κ) : Prop :=
  ∀ kernel ∈ state.kernels, kernel.Typed ∧ ∀ index buffer,
    kernel.bound? index = some (.buffer buffer) → (state.store.shape buffer).isSome

theorem Known.of_same (h : state.Known) (hkernels : state'.kernels = state.kernels)
    (hshape : ∀ buffer found, state.store.shape buffer = some found →
      state'.store.shape buffer = some found) : state'.Known := by
  intro kernel hkernel
  rw [hkernels] at hkernel
  obtain ⟨htyped, hbuffers⟩ := h kernel hkernel
  refine ⟨htyped, fun index buffer hbound => ?_⟩
  obtain ⟨found, hfound⟩ := Option.isSome_iff_exists.1 (hbuffers index buffer hbound)
  exact Option.isSome_iff_exists.2 ⟨found, hshape _ _ hfound⟩

theorem Known.setKernelArg (h : state.Known) (kernel : KernelId) (index : Nat)
    (arg : Argument BufferId) : (state.setKernelArg kernel index arg).2.Known := by
  rcases hset : state.setKernelArg kernel index arg with ⟨status | ⟨⟩, after⟩
  · have hsame : after = state := by
      rw [State.setKernelArg] at hset
      grind
    exact hsame ▸ h
  · obtain ⟨old, new, hold, hbind, hbuffer, rfl⟩ := setKernelArg_eq_ok hset
    obtain ⟨htyped, hbuffers⟩ := h old (Array.mem_of_getElem? hold)
    intro found hfound
    rcases Array.mem_or_eq_of_mem_setIfInBounds hfound with hfound | rfl
    · exact h found hfound
    · refine ⟨htyped.bind hbind, fun position buffer hbound => ?_⟩
      rw [htyped.bound?_bind hbind] at hbound
      split at hbound
      · obtain rfl : arg = .buffer buffer := Bound.of_injective (Option.some.inj hbound)
        rwa [hasBuffer_eq] at hbuffer
      · exact hbuffers position buffer hbound

theorem Known.createKernel (h : state.Known) (program : ProgramId) (name : String)
    (params : List ParamKind) : (state.createKernel program name params).2.Known := by
  rw [State.createKernel]
  split
  · exact h
  · split
    · exact h
    · intro kernel hkernel
      rcases Array.mem_push.1 hkernel with hkernel | rfl
      · exact h kernel hkernel
      · refine ⟨Kernel.typed_empty, fun index buffer hbound => ?_⟩
        rw [Kernel.bound?_empty] at hbound
        cases hbound

theorem admitWrite_fits {buffer : BufferId} {data : Array Int32} {wait : List EventId}
    {operation : Operation} (h : state.admitWrite queue buffer data wait = .ok operation) :
    state.checkSubmission queue wait = .ok () ∧ operation = .write buffer data ∧
      operation.Fits state.store.shape := by
  obtain ⟨hcheck, rfl, hfits⟩ := admitWrite_eq_ok h
  exact ⟨hcheck, rfl, hfits⟩

theorem admitRead_fits {buffer : BufferId} {count : Nat} {wait : List EventId}
    {operation : Operation} (h : state.admitRead queue buffer count wait = .ok operation) :
    state.checkSubmission queue wait = .ok () ∧ operation = .read buffer count ∧
      operation.Fits state.store.shape := by
  obtain ⟨hcheck, rfl, hfits⟩ := admitRead_eq_ok h
  exact ⟨hcheck, rfl, hfits⟩

/-- A kernel without gaps in its argument vector has arguments, and their buffers exist. -/
theorem Known.exists_arguments (h : state.Known) {kernel : KernelId} {entries : List Bound}
    (hentries : state.kernels[kernel]?.bind Kernel.arguments? = some entries) :
    ∃ args : Arguments, entries = args.vector ∧
      ∀ buffer ∈ [args.a, args.b, args.c], (state.store.shape buffer).isSome := by
  obtain ⟨found, hfound, hbound⟩ := Option.bind_eq_some_iff.1 hentries
  obtain ⟨htyped, hbuffers⟩ := h found (Array.mem_of_getElem? hfound)
  obtain ⟨args, rfl⟩ := htyped.exists_vector hbound
  have hentry (index : Nat) (buffer : BufferId)
      (hbuffer : args.vector[index]? = some (.buffer buffer)) :
      (state.store.shape buffer).isSome :=
    hbuffers index buffer ((Kernel.bound?_of_arguments? hbound index).trans hbuffer)
  refine ⟨args, rfl, ?_⟩
  simp only [List.mem_cons, List.not_mem_nil, or_false, forall_eq_or_imp, forall_eq]
  exact ⟨hentry 0 _ rfl, hentry 1 _ rfl, hentry 2 _ rfl⟩

/-- A kernel that is admitted fits, as only arguments of the right kinds are bound. -/
theorem Known.admitKernel_eq_ok (h : state.Known) {kernel : KernelId} {size : UInt64}
    {wait : List EventId} {operation : Operation}
    (hadmitted : state.admitKernel queue kernel size wait = .ok operation) :
    state.checkSubmission queue wait = .ok () ∧ operation.Fits state.store.shape := by
  obtain ⟨hcheck, entries, hentries, -, rfl⟩ := State.admitKernel_eq_ok hadmitted
  exact ⟨hcheck, h.exists_arguments hentries⟩

/-! ### Single moves -/

/-- What neither submits nor runs commands leaves: the pending lists, the events and the shapes of
    buffers. -/
structure Undisturbed (state state' : State κ) : Prop where
  pending : state'.pending = state.pending
  events : state'.store.events = state.store.events
  shape : ∀ buffer found, state.store.shape buffer = some found →
    state'.store.shape buffer = some found
  known : state.Known → state'.Known

theorem Undisturbed.of_same (hpending : state'.pending = state.pending)
    (hstore : state'.store = state.store) (hkernels : state'.kernels = state.kernels) :
    Undisturbed state state' := by
  have hshape : ∀ buffer found, state.store.shape buffer = some found →
      state'.store.shape buffer = some found := fun _ _ hfound => hstore ▸ hfound
  exact ⟨hpending, congrArg Store.events hstore, hshape, fun h => h.of_same hkernels hshape⟩

variable [Clock Id κ]

/-- One change of a state, and what happens to commands in it. -/
inductive Move : State κ → List Deed → State κ → Prop
  | rest {state state' : State κ} : Undisturbed state state' → Move state [] state'
  | submit {state : State κ} {queue : QueueId} {operation : Operation} {wait : List EventId} :
    state.checkSubmission queue wait = .ok () → operation.Fits state.store.shape →
    Move state [.submitted queue ⟨operation, wait, state.store.events.size⟩]
      (state.submit queue operation wait).2
  | run {state state' : State κ} {queue : QueueId} {command : Command} {failure : Option Status} :
    Step queue state command failure state' → Move state [.ran queue command] state'

/-- Moves one after the other, and all that happens to commands in them. -/
inductive Moves : State κ → List Deed → State κ → Prop
  | refl {state : State κ} : Moves state [] state
  | move {state state' state'' : State κ} {deeds new : List Deed} : Moves state deeds state' →
    Move state' new state'' → Moves state (deeds ++ new) state''

theorem Move.moves {new : List Deed} (h : Move state new state') : Moves state new state' :=
  .move .refl h

theorem Moves.trans {deeds new : List Deed} (h : Moves state deeds state')
    (h' : Moves state' new state'') : Moves state (deeds ++ new) state'' := by
  induction h' with
  | refl => rwa [List.append_nil]
  | move _ hmove ih =>
    rw [← List.append_assoc]
    exact .move ih hmove

/-! ### What moves keep -/

theorem Known.of_quiet (h : state.Known) {request : Request handles} (hquiet : quiet request) :
    (Host.answer (m := Id) request state).state.Known := by
  have hshape := (untouched_answer hquiet state).shape
  cases request with
  | setKernelArg kernel index arg => exact h.setKernelArg kernel index arg
  | createKernel program queue name params => exact h.createKernel program name params
  | platforms | createContext | buildLog | waitEvents | profiling => exact h.of_same rfl hshape
  | createBuffer | createProgram =>
    refine h.of_same ?_ hshape
    simp only [Host.answer, createBuffer, createProgram]
    split <;> rfl
  | buildProgram =>
    refine h.of_same ?_ hshape
    simp only [Host.answer, buildProgram]
    split
    · rfl
    · split <;> rfl
  | createQueue | enqueueWrite | enqueueKernel | enqueueRead | finish =>
    exact absurd hquiet Bool.false_ne_true

omit [Clock Id κ] in
theorem Stepped.mem {command : Command} {failure : Option Status}
    (h : Stepped queue state command failure state') : command ∈ state.pending queue := by
  obtain ⟨before, after, hpending, -⟩ := h.pending
  simp [hpending]

theorem Step.events_eq {command : Command} {failure : Option Status}
    (h : Step queue state command failure state') {event : EventId} (hne : event ≠ command.event) :
    state'.store.events[event]? = state.store.events[event]? := by
  obtain ⟨-, -, hexecute⟩ := h
  rename_i q rest store
  exact q.events_execute hexecute hne

/-- An event that has resolved stays as it is, with its stamps and with what it has fetched. -/
theorem Move.events_eq {new : List Deed} (hmove : Move state new state') (h : state.WellFormed)
    {event : EventId} (hresolved : state.store.isResolved event) :
    state'.store.events[event]? = state.store.events[event]? := by
  cases hmove with
  | rest hrest => rw [hrest.events]
  | submit =>
    have hne : event ≠ state.store.events.size := by
      rintro rfl
      exact Bool.false_ne_true ((isResolved_of_size_le (Nat.le_refl _)).symm.trans hresolved)
    exact Array.getElem?_push.trans (if_neg hne)
  | run hstep =>
    refine hstep.events_eq ?_
    rintro rfl
    exact Bool.false_ne_true ((h.unresolved _ _ hstep.spec.mem).2.symm.trans hresolved)

theorem Move.wellFormed {new : List Deed} (hmove : Move state new state') (h : state.WellFormed) :
    state'.WellFormed := by
  cases hmove with
  | rest hrest => exact h.of_same hrest.pending hrest.events
  | submit hcheck _ => exact h.submit_of_checked _ hcheck
  | run hstep => exact hstep.spec.wellFormed h

theorem Move.shape {new : List Deed} (hmove : Move state new state') (h : state.WellFormed)
    {buffer : BufferId} {found : Access × Nat} (hfound : state.store.shape buffer = some found) :
    state'.store.shape buffer = some found := by
  cases hmove with
  | rest hrest => exact hrest.shape buffer found hfound
  | submit => exact hfound
  | run hstep => rwa [(hstep.spec.executes h).shape]

theorem Move.known {new : List Deed} (hmove : Move state new state') (h : state.WellFormed)
    (hknown : state.Known) : state'.Known := by
  have hshape (buffer : BufferId) (found : Access × Nat)
      (hfound : state.store.shape buffer = some found) :
      state'.store.shape buffer = some found := hmove.shape h hfound
  cases hmove with
  | rest hrest => exact hrest.known hknown
  | submit => exact hknown
  | run hstep => exact hknown.of_same hstep.spec.kernels hshape

theorem Moves.keep {deeds : List Deed} (hmoves : Moves state deeds state') (h : state.WellFormed)
    (hknown : state.Known) : state'.WellFormed ∧ state'.Known := by
  induction hmoves with
  | refl => exact ⟨h, hknown⟩
  | move _ hmove ih => exact ⟨hmove.wellFormed ih.1, hmove.known ih.1 ih.2⟩

theorem Moves.events_eq {deeds : List Deed} (hmoves : Moves state deeds state')
    (h : state.WellFormed) {event : EventId} (hresolved : state.store.isResolved event) :
    state'.WellFormed ∧ state'.store.events[event]? = state.store.events[event]? := by
  induction hmoves with
  | refl => exact ⟨h, rfl⟩
  | move _ hmove ih =>
    obtain ⟨hwf, hsame⟩ := ih
    rw [Store.isResolved, Store.status, ← hsame] at hresolved
    exact ⟨hmove.wellFormed hwf, (hmove.events_eq hwf hresolved).trans hsame⟩

end State

end Offload.Host
